import SecureDialogues.Lib.Table

/-!
# The repository of pending elements

`messages/src/utils/timeoutedrepository.h`. An element waits under its key until it is removed or
its time is over. The callbacks `removed` and `timeouted` belong to the element's type: the
functions here only give the element that the callback is run for and take it out.
-/

namespace SecureDialogues

open Text

/-- Nanoseconds in a second, the unit of `std::chrono::system_clock`. -/
abbrev nanoseconds : Int := 1000000000

/-- `StoredElement` (`timeoutedrepository.h:19-27`). -/
structure StoredElement (T : Type) where
  element : T
  validTo : Int
  deriving DecidableEq, Repr

/-- The elements of a `TimeoutedRrepository`, by name and number. -/
abbrev TimeoutedRepository (w : Nat) (T : Type) := NumberedTable w (StoredElement T)

namespace TimeoutedRepository

variable {w : Nat} {T : Type} (mValues : TimeoutedRepository w T)

/-- `store` (`timeoutedrepository.h:94-108`): a key that is taken keeps its element. -/
def store (now : Int) (obj : T) (key : NumberedKey w) (timeout : Nat) :
    TimeoutedRepository w T :=
  mValues.insertIfNew key { element := obj, validTo := now + timeout * nanoseconds }

/-- The element that `checkInThread` finds overdue at the time `now`
(`timeoutedrepository.h:126-143`). -/
def overdue (now : Int) (key : NumberedKey w) : Option T :=
  match mValues[key]? with
  | some stored => if stored.validTo > now then none else some stored.element
  | none => none

theorem getElem?_store (now : Int) (obj : T) (key other : NumberedKey w) (timeout : Nat) :
    (mValues.store now obj key timeout)[other]? =
      if key = other ∧ mValues[key]? = none then
        some { element := obj, validTo := now + timeout * nanoseconds }
      else mValues[other]? :=
  getElem?_insertIfNew _ _ _ _

theorem overdue_eq_some {now : Int} {key : NumberedKey w} {element : T}
    (found : mValues.overdue now key = some element) :
    ∃ stored, mValues[key]? = some stored ∧ stored.element = element := by
  unfold overdue at found
  split at found
  · rename_i stored lookup
    split at found
    · cases found
    · exact ⟨stored, lookup, Option.some.inj found⟩
  · cases found

end TimeoutedRepository

end SecureDialogues
