import SecureDialogues.Step

/-!
# The protocol's view of an instance

What the dialog protocol is about: the dialogs, the session ciphers, the pending deliveries and
the history, as plain functions. The rest of an instance (contacts, keys of peers, channels, the
message log, times of expiry) only decides which of the protocol's moves are made.
-/

namespace SecureDialogues

open Text Effect

/-- The part of a state that the protocol's laws speak about. -/
@[ext]
structure View (w : Nat) where
  dialogs : Str → Option (Dialog w)
  ciphers : Str → Option DialogElement
  pending : NumberedKey w → Option DeliveryHandler
  log : List (Event w)

namespace View

variable {w : Nat} (v : View w)

/-- A dialog is written. -/
def setDialog (dialog : Dialog w) : View w :=
  { v with dialogs := Function.update v.dialogs dialog.mDialogId (some dialog) }

/-- A dialog disappears with its cipher. -/
def forget (dialogId : Str) : View w :=
  { v with
    dialogs := Function.update v.dialogs dialogId none
    ciphers := Function.update v.ciphers dialogId none }

/-- A cipher is installed. -/
def install (dialogId : Str) (element : DialogElement) : View w :=
  { v with ciphers := Function.update v.ciphers dialogId (some element) }

/-- A delivery becomes pending, unless its key is taken. -/
def store (k : NumberedKey w) (handler : DeliveryHandler) : View w :=
  { v with pending := fun other =>
      if k = other ∧ v.pending k = none then some handler else v.pending other }

/-- A delivery is no longer pending. -/
def drop (k : NumberedKey w) : View w :=
  { v with pending := Function.update v.pending k none }

/-- Events happen. -/
def record (events : List (Event w)) : View w := { v with log := v.log ++ events }

section Fields

variable (dialog : Dialog w) (dialogId : Str) (element : DialogElement) (k : NumberedKey w)
  (handler : DeliveryHandler) (events : List (Event w))

@[simp] theorem setDialog_ciphers : (v.setDialog dialog).ciphers = v.ciphers := rfl
@[simp] theorem setDialog_pending : (v.setDialog dialog).pending = v.pending := rfl
@[simp] theorem setDialog_log : (v.setDialog dialog).log = v.log := rfl
@[simp] theorem forget_pending : (v.forget dialogId).pending = v.pending := rfl
@[simp] theorem forget_log : (v.forget dialogId).log = v.log := rfl
@[simp] theorem install_dialogs : (v.install dialogId element).dialogs = v.dialogs := rfl
@[simp] theorem install_pending : (v.install dialogId element).pending = v.pending := rfl
@[simp] theorem install_log : (v.install dialogId element).log = v.log := rfl
@[simp] theorem store_dialogs : (v.store k handler).dialogs = v.dialogs := rfl
@[simp] theorem store_ciphers : (v.store k handler).ciphers = v.ciphers := rfl
@[simp] theorem store_log : (v.store k handler).log = v.log := rfl
@[simp] theorem drop_dialogs : (v.drop k).dialogs = v.dialogs := rfl
@[simp] theorem drop_ciphers : (v.drop k).ciphers = v.ciphers := rfl
@[simp] theorem drop_log : (v.drop k).log = v.log := rfl
@[simp] theorem record_dialogs : (v.record events).dialogs = v.dialogs := rfl
@[simp] theorem record_ciphers : (v.record events).ciphers = v.ciphers := rfl
@[simp] theorem record_pending : (v.record events).pending = v.pending := rfl
@[simp] theorem record_log : (v.record events).log = v.log ++ events := rfl

theorem record_nil : v.record [] = v := by
  simp [record]

theorem setDialog_dialogs (other : Str) : (v.setDialog dialog).dialogs other =
    if dialog.mDialogId = other then some dialog else v.dialogs other := by
  simp [setDialog, Function.update_apply, eq_comm]

theorem forget_dialogs (other : Str) : (v.forget dialogId).dialogs other =
    if dialogId = other then none else v.dialogs other := by
  simp [forget, Function.update_apply, eq_comm]

theorem forget_ciphers (other : Str) : (v.forget dialogId).ciphers other =
    if dialogId = other then none else v.ciphers other := by
  simp [forget, Function.update_apply, eq_comm]

theorem install_ciphers (other : Str) : (v.install dialogId element).ciphers other =
    if dialogId = other then some element else v.ciphers other := by
  simp [install, Function.update_apply, eq_comm]

theorem store_pending (other : NumberedKey w) : (v.store k handler).pending other =
    if k = other ∧ v.pending k = none then some handler else v.pending other := rfl

theorem drop_pending (other : NumberedKey w) : (v.drop k).pending other =
    if k = other then none else v.pending other := by
  simp [drop, Function.update_apply, eq_comm]

end Fields

end View

/-! ## The view of a state -/

namespace Core

variable {w : Nat} (p : Platform w) (s : Core w)

def view : View w where
  dialogs := s.mDialogStorage.find
  ciphers dialogId := s.mCiphers[dialogId]?
  pending k := (s.mRepo[k]?).map (·.element)
  log := s.log

@[simp] theorem view_dialogs : s.view.dialogs = s.mDialogStorage.find := rfl
@[simp] theorem view_ciphers (dialogId : Str) : s.view.ciphers dialogId = s.mCiphers[dialogId]? :=
  rfl
@[simp] theorem view_log : s.view.log = s.log := rfl

theorem view_record (event : Event w) : (s.record event).view = s.view.record [event] := rfl

theorem view_saveDialog (dialog : Dialog w) :
    (s.saveDialog p dialog).view = s.view.setDialog dialog := by
  simp only [view, saveDialog, View.setDialog, View.mk.injEq, and_true]
  funext dialogId
  simp [DialogStorage.find_put, Function.update_apply, eq_comm]

theorem view_addDialog (dialog : Dialog w) :
    (s.addDialog dialog).view = (s.view.setDialog dialog).record [.dialogAdded dialog.mDialogId] := by
  simp only [view, addDialog, View.setDialog, View.record, View.mk.injEq, and_true]
  funext dialogId
  simp [DialogStorage.find_put, Function.update_apply, eq_comm]

theorem view_removeDialog (dialogId : Str) :
    (s.removeDialog dialogId).view = (s.view.forget dialogId).record [.dialogRemoved dialogId] := by
  simp only [view, removeDialog, View.forget, View.record, View.mk.injEq, and_true]
  constructor
  · funext other
    simp [DialogStorage.find_remove, Function.update_apply, eq_comm]
  · funext other
    rw [getElem?_erase]
    simp [Function.update_apply, eq_comm]

theorem view_emplaceCipher_of_none {dialogId : Str} (absent : s.mCiphers[dialogId]? = none)
    (element : DialogElement) : (s.emplaceCipher dialogId element).view =
      (s.view.install dialogId element).record [.keyInstalled dialogId] := by
  have new : dialogId ∉ s.mCiphers := by simpa using absent
  simp only [emplaceCipher, new, if_false, view, View.install, View.record, View.mk.injEq,
    and_true, true_and]
  funext other
  rw [getElem?_insert]
  simp [Function.update_apply, eq_comm]

theorem emplaceCipher_of_some {dialogId : Str} {old : DialogElement}
    (present : s.mCiphers[dialogId]? = some old) (element : DialogElement) :
    s.emplaceCipher dialogId element = s := by
  have taken : dialogId ∈ s.mCiphers := by
    rw [Std.ExtTreeMap.mem_iff_isSome_getElem?, present]
    rfl
  simp [emplaceCipher, taken]

theorem view_store (now : Int) (handler : DeliveryHandler) (k : NumberedKey w) (timeout : Nat) :
    ({ s with mRepo := s.mRepo.store now handler k timeout } : Core w).view =
      s.view.store k handler := by
  refine View.ext rfl rfl (funext fun other => ?_) rfl
  have free : s.view.pending k = none ↔ s.mRepo[k]? = none := Option.map_eq_none_iff
  change ((s.mRepo.store now handler k timeout)[other]?).map _ = _
  rw [TimeoutedRepository.getElem?_store, View.store_pending]
  by_cases new : k = other ∧ s.mRepo[k]? = none
  · rw [if_pos new, if_pos (by rwa [free])]
    rfl
  · rw [if_neg new, if_neg (by rwa [free])]
    rfl

theorem view_erase (k : NumberedKey w) :
    ({ s with mRepo := s.mRepo.erase k } : Core w).view = s.view.drop k := by
  simp only [view, View.drop, View.mk.injEq, true_and, and_true]
  funext other
  rw [getElem?_erase, Function.update_apply]
  by_cases same : k = other
  · rw [if_pos same, if_pos same.symm]
    rfl
  · rw [if_neg same, if_neg (Ne.symm same)]

end Core

end SecureDialogues
