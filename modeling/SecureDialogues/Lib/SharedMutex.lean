import Mathlib.Tactic

/-!
# A mutex for readers and writers

`std::shared_mutex`: one owner alone, or any number of owners together. A lock that is not free is
`none`, and the thread that asks for it waits. A shared lock does not wait for a thread that waits
for the exclusive one.
-/

namespace SecureDialogues

/-- Who owns the mutex. -/
structure SharedMutex where
  writer : Bool
  readers : Nat
  exclusive : writer = true → readers = 0

namespace SharedMutex

def free : SharedMutex := ⟨false, 0, fun _ => rfl⟩

variable (m : SharedMutex)

def lock : Option SharedMutex :=
  if m.writer = false ∧ m.readers = 0 then some ⟨true, 0, fun _ => rfl⟩ else none

def unlock : SharedMutex := ⟨false, m.readers, fun held => nomatch held⟩

def lockShared : Option SharedMutex :=
  if m.writer = false then some ⟨false, m.readers + 1, fun held => nomatch held⟩ else none

def unlockShared : SharedMutex :=
  ⟨m.writer, m.readers - 1, fun held => by rw [m.exclusive held]⟩

variable {m}

/-- Readers wait while a writer owns the mutex. -/
theorem lockShared_of_writer (held : m.writer = true) : m.lockShared = none := by
  rw [lockShared, if_neg (by rw [held]; simp)]

end SharedMutex

end SecureDialogues
