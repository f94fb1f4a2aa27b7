import SecureDialogues.Primitives.DialogMessage

/-!
# Dialogs

`messages/src/primitives/dialog.{h,cpp}` and `dialogstatemachine.cpp`: a dialog record, its two
sequence counters and the two tables of the state machine.
-/

namespace SecureDialogues

open Text

/-- `Dialog::Status` (`dialog.h:33-42`). -/
inductive Status where
  | new
  | createRequest
  | waitConfirm
  | acceptedWait
  | waitKeyVerificaion
  | active
  | closed
  | aborted
  deriving DecidableEq, Repr

/-- The number of the enumerator, as `static_cast<int>` gives it. -/
def Status.toNat : Status → Nat
  | .new => 0
  | .createRequest => 1
  | .waitConfirm => 2
  | .acceptedWait => 3
  | .waitKeyVerificaion => 4
  | .active => 5
  | .closed => 6
  | .aborted => 7

/-- `DialogStateMachine::isStateTransitionAllowed` (`dialogstatemachine.cpp:4-32`). -/
def isStateTransitionAllowed (currState newState : Status) : Bool :=
  match currState with
  | .new => newState == .waitConfirm || newState == .aborted
  | .createRequest => newState == .acceptedWait || newState == .aborted
  | .waitConfirm => newState == .active || newState == .aborted || newState == .waitConfirm
  | .acceptedWait => newState == .waitKeyVerificaion || newState == .aborted
  | .waitKeyVerificaion => newState == .active || newState == .closed || newState == .aborted
  | .active => newState == .closed || newState == .aborted
  | .closed => false
  | .aborted => false

/-- `DialogStateMachine::isMessageActionAllowed` (`dialogstatemachine.cpp:34-62`). -/
def isMessageActionAllowed (currState : Status) (action : Action) : Bool :=
  match currState with
  | .new => action == .createDialog || action == .abort
  | .createRequest => action == .abort || action == .verifyKey
  | .waitConfirm => action == .abort || action == .keyVerification
  | .acceptedWait => action == .abort
  | .waitKeyVerificaion =>
    action == .abort || action == .acceptDialog || action == .closeDialog
  | .active => action == .abort || action == .closeDialog || action == .message
  | .closed => false
  | .aborted => false

/-- The two statuses that no transition leaves. -/
def Status.isEnded : Status → Bool
  | .closed | .aborted => true
  | _ => false

/-- A dialog may be aborted exactly as long as it has not ended. -/
theorem isStateTransitionAllowed_aborted (status : Status) :
    isStateTransitionAllowed status .aborted = !status.isEnded := by
  cases status <;> rfl

/-- An ABORT may be sent exactly as long as the dialog has not ended. -/
theorem isMessageActionAllowed_abort (status : Status) :
    isMessageActionAllowed status .abort = !status.isEnded := by
  cases status <;> rfl

theorem isStateTransitionAllowed_active {status : Status} :
    isStateTransitionAllowed status .active = true ↔
      status = .waitConfirm ∨ status = .waitKeyVerificaion := by
  cases status <;> decide

theorem isStateTransitionAllowed_waitKeyVerificaion {status : Status} :
    isStateTransitionAllowed status .waitKeyVerificaion = true ↔ status = .acceptedWait := by
  cases status <;> decide

theorem isMessageActionAllowed_verifyKey {status : Status} :
    isMessageActionAllowed status .verifyKey = true ↔ status = .createRequest := by
  cases status <;> decide

theorem isMessageActionAllowed_keyVerification {status : Status} :
    isMessageActionAllowed status .keyVerification = true ↔ status = .waitConfirm := by
  cases status <;> decide

theorem isMessageActionAllowed_acceptDialog {status : Status} :
    isMessageActionAllowed status .acceptDialog = true ↔ status = .waitKeyVerificaion := by
  cases status <;> decide

theorem isMessageActionAllowed_message {status : Status} :
    isMessageActionAllowed status .message = true ↔ status = .active := by
  cases status <;> decide

/-- `Dialog` (`dialog.h:121-126`). -/
structure Dialog (w : Nat) where
  mDialogId : Str
  mContactId : Str
  mStatus : Status
  mPeerSequental : BitVec w
  mThisSequental : BitVec w
  deriving DecidableEq, Repr

namespace Dialog

variable {w : Nat}

/-- `Dialog(contactId, dialogId, sequental, status)` (`dialog.h:136-141`); `init` is what
`init_sequental` returned, a number of 32 bits in an `unsigned long`. -/
def ofPeer (init : BitVec 32) (contactId dialogId : Str) (sequental : BitVec w)
    (status : Status) : Dialog w where
  mDialogId := dialogId
  mContactId := contactId
  mStatus := status
  mPeerSequental := sequental
  mThisSequental := init.setWidth w

/-- `Dialog(contactId)` (`dialog.h:143-149`). -/
def ofContact (init : BitVec 32) (uiid contactId : Str) : Dialog w :=
  ofPeer init contactId uiid 0 .new

/-- `Dialog::isSequentalOk` (`dialog.cpp:59-65`): the dialog afterwards, if the number is
accepted. -/
def isSequentalOk (dialog : Dialog w) (sequental : BitVec w) : Option (Dialog w) :=
  if dialog.mPeerSequental < sequental then some { dialog with mPeerSequental := sequental }
  else none

/-- `Dialog::makeNextSequental` (`dialog.cpp:72-74`). The number it returns is the counter of the
new dialog. -/
def makeNextSequental (dialog : Dialog w) : Dialog w :=
  { dialog with mThisSequental := dialog.mThisSequental + 1 }

/-- The dialog in another status, once `setStatus` has checked the transition. -/
def withStatus (dialog : Dialog w) (status : Status) : Dialog w :=
  { dialog with mStatus := status }

section Fields

variable (dialog : Dialog w) (status : Status)

@[simp] theorem makeNextSequental_mDialogId :
    dialog.makeNextSequental.mDialogId = dialog.mDialogId := rfl
@[simp] theorem makeNextSequental_mContactId :
    dialog.makeNextSequental.mContactId = dialog.mContactId := rfl
@[simp] theorem makeNextSequental_mStatus :
    dialog.makeNextSequental.mStatus = dialog.mStatus := rfl
@[simp] theorem makeNextSequental_mPeerSequental :
    dialog.makeNextSequental.mPeerSequental = dialog.mPeerSequental := rfl
@[simp] theorem makeNextSequental_mThisSequental :
    dialog.makeNextSequental.mThisSequental = dialog.mThisSequental + 1 := rfl
@[simp] theorem withStatus_mDialogId : (dialog.withStatus status).mDialogId = dialog.mDialogId := rfl
@[simp] theorem withStatus_mContactId :
    (dialog.withStatus status).mContactId = dialog.mContactId := rfl
@[simp] theorem withStatus_mStatus : (dialog.withStatus status).mStatus = status := rfl
@[simp] theorem withStatus_mPeerSequental :
    (dialog.withStatus status).mPeerSequental = dialog.mPeerSequental := rfl
@[simp] theorem withStatus_mThisSequental :
    (dialog.withStatus status).mThisSequental = dialog.mThisSequental := rfl

end Fields

/-- A number that is accepted is larger than the stored one and becomes the stored one. -/
theorem isSequentalOk_eq_some {dialog next : Dialog w} {sequental : BitVec w} :
    dialog.isSequentalOk sequental = some next ↔
      dialog.mPeerSequental < sequental ∧ next = { dialog with mPeerSequental := sequental } := by
  unfold isSequentalOk
  constructor
  · intro accepted
    split at accepted
    · cases accepted
      exact ⟨‹_›, rfl⟩
    · cases accepted
  · rintro ⟨larger, rfl⟩
    rw [if_pos larger]

theorem isSequentalOk_eq_none {dialog : Dialog w} {sequental : BitVec w} :
    dialog.isSequentalOk sequental = none ↔ ¬ dialog.mPeerSequental < sequental := by
  unfold isSequentalOk
  split <;> simp_all

end Dialog

end SecureDialogues
