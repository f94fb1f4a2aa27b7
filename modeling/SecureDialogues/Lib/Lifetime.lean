import Mathlib.Tactic

/-!
# Objects and their lifetimes

A program builds objects, hands out pointers to them and destroys them. The rules of the language give
an access a meaning only while the object is alive, so a program that reads one outside of its lifetime
has no result.
-/

namespace SecureDialogues.Lifetime

/-- The objects built so far, each with its value as long as it is alive. -/
abbrev Storage (α : Type) := List (Option α)

/-- A pointer to one of the objects. -/
abbrev Pointer := Nat

/-- A program over the objects; it has no result where the rules of the language give it none. -/
abbrev Prog (α β : Type) := StateT (Storage α) Option β

variable {α β γ : Type}

/-- Builds an object. -/
def construct (value : α) : Prog α Pointer := fun storage =>
  some (storage.length, storage ++ [some value])

/-- Reads an object. -/
def load (pointer : Pointer) : Prog α α := fun storage =>
  storage[pointer]?.join.map (·, storage)

/-- Ends the lifetime of an object. -/
def destroy (pointer : Pointer) : Prog α Unit := fun storage =>
  storage[pointer]?.join.map fun _ => ((), storage.set pointer none)

/-- Uses a temporary object, which is destroyed at the end of the full expression. -/
def temporary (make : Prog α α) (use : Pointer → Prog α β) : Prog α β := do
  let pointer ← construct (← make)
  let result ← use pointer
  destroy pointer
  pure result

/-! ## Objects that are alive -/

/-- The pointer is one to an object that is alive, of this value. -/
def Holds (storage : Storage α) (pointer : Pointer) (value : α) : Prop :=
  storage[pointer]? = some (some value)

theorem Holds.load {storage : Storage α} {pointer : Pointer} {value : α}
    (holds : Holds storage pointer value) : load pointer storage = some (value, storage) := by
  rw [Lifetime.load, show storage[pointer]? = some (some value) from holds]
  rfl

/-- A new object is alive. -/
theorem holds_construct (storage : Storage α) (value : α) :
    Holds (storage ++ [some value]) storage.length value := by
  simp [Holds]

/-- New objects leave the older ones alone. -/
theorem Holds.mono {storage storage' : Storage α} {pointer : Pointer} {value : α}
    (holds : Holds storage pointer value) (extends' : storage <+: storage') :
    Holds storage' pointer value := by
  obtain ⟨later, rfl⟩ := extends'
  have inside := (List.getElem?_eq_some_iff.mp holds).1
  rw [Holds, List.getElem?_append_left inside]
  exact holds

/-! ## Objects that are destroyed -/

/-- A read of a destroyed object has no result. -/
theorem load_set_none (storage : Storage α) (pointer : Pointer) :
    load pointer (storage.set pointer none) = none := by
  rw [load, List.getElem?_set_self']
  cases storage[pointer]? <;> rfl

theorem destroy_eq_some {storage storage' : Storage α} {pointer : Pointer} {result : Unit}
    (destroyed : destroy pointer storage = some (result, storage')) :
    storage' = storage.set pointer none := by
  obtain ⟨value, -, same⟩ := Option.map_eq_some_iff.mp destroyed
  exact (congrArg Prod.snd same).symm

theorem bind_eq_some {first : Prog α β} {second : β → Prog α γ} {storage : Storage α}
    {result : γ × Storage α} :
    (first >>= second) storage = some result ↔
      ∃ value storage', first storage = some (value, storage') ∧ second value storage' = some result := by
  change (first storage).bind (fun outcome => second outcome.1 outcome.2) = some result ↔ _
  rw [Option.bind_eq_some_iff]
  exact Prod.exists

/-- A pointer that leaves the full expression of its temporary cannot be read. -/
theorem load_of_temporary {make : Prog α α} {storage storage' : Storage α} {pointer : Pointer}
    (left : temporary make pure storage = some (pointer, storage')) : load pointer storage' = none := by
  obtain ⟨value, made, -, rest⟩ := bind_eq_some.mp left
  obtain ⟨object, built, -, rest⟩ := bind_eq_some.mp rest
  obtain ⟨result, used, kept, rest⟩ := bind_eq_some.mp rest
  obtain ⟨_, ended, destroyed, last⟩ := bind_eq_some.mp rest
  cases kept
  cases last
  rw [destroy_eq_some destroyed]
  exact load_set_none _ _

end SecureDialogues.Lifetime
