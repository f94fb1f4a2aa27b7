import SecureDialogues.Lib.Table
import SecureDialogues.Primitives.Dialog

/-!
# The dialog storage

`DialogStorage` (`messages/src/containers/storages.h:39-44`) as the handlers see it: records under
their own identifiers (`get_id`, `storages.cpp:7-9`).
-/

namespace SecureDialogues

open Text

/-- The stored dialogs; every record stands under its own identifier. -/
structure DialogStorage (w : Nat) where
  records : Table (Dialog w)
  keyed : ∀ (dialogId : Str) (dialog : Dialog w),
    records[dialogId]? = some dialog → dialog.mDialogId = dialogId
  deriving DecidableEq

namespace DialogStorage

variable {w : Nat}

def empty : DialogStorage w where
  records := ∅
  keyed := by simp

variable (storage : DialogStorage w)

/-- `get`, if the identifier is stored. -/
def find (dialogId : Str) : Option (Dialog w) := storage.records[dialogId]?

/-- `has`. -/
def has (dialogId : Str) : Bool := (storage.find dialogId).isSome

/-- The record is written under its identifier: `add`, and `save` of a wrapper. -/
def put (dialog : Dialog w) : DialogStorage w where
  records := storage.records.insert dialog.mDialogId dialog
  keyed dialogId other found := by
    rw [getElem?_insert] at found
    split at found
    · rename_i same
      cases found
      exact same
    · exact storage.keyed _ _ found

/-- `remove` of a wrapper. -/
def remove (dialogId : Str) : DialogStorage w where
  records := storage.records.erase dialogId
  keyed other dialog found := by
    rw [getElem?_erase] at found
    split at found
    · cases found
    · exact storage.keyed _ _ found

variable {storage}

theorem mDialogId_of_find {dialogId : Str} {dialog : Dialog w}
    (found : storage.find dialogId = some dialog) : dialog.mDialogId = dialogId :=
  storage.keyed _ _ found

@[simp] theorem find_empty (dialogId : Str) : (empty : DialogStorage w).find dialogId = none := by
  simp [find, empty]

theorem find_put (dialog : Dialog w) (dialogId : Str) :
    (storage.put dialog).find dialogId =
      if dialog.mDialogId = dialogId then some dialog else storage.find dialogId :=
  getElem?_insert _ _ _ _

@[simp] theorem find_put_self (dialog : Dialog w) :
    (storage.put dialog).find dialog.mDialogId = some dialog := by
  simp [find_put]

theorem find_remove (removed dialogId : Str) :
    (storage.remove removed).find dialogId =
      if removed = dialogId then none else storage.find dialogId :=
  getElem?_erase _ _ _

end DialogStorage

end SecureDialogues
