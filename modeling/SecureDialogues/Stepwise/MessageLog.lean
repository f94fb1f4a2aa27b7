import SecureDialogues.Containers.DialogLog
import SecureDialogues.Stepwise.Atom

/-!
# The message container in the operations

The atomic steps reach the message container through its own operations: every step makes one change
to it or none.
-/

namespace SecureDialogues

open Text Effect MessageContainer

variable {w : Nat} (p : Platform w) (env : Env w)

/-- The message that `SystemMessageGenerator` puts into the log of an ended dialog. -/
def Platform.endedMessage (status : Status) : UserMessage where
  mStatus := .deliveried
  mType := .system
  mContent := p.dgettext (endedText status)

/-- The system messages of the handlers report errors. -/
def UserMessage.IsOrdinary (message : UserMessage) : Prop :=
  message.mType = .system → message.mStatus = .error

/-- What a step changes in the message container. -/
def Atom.change : Atom w → Option Change
  | saveDialog dialog =>
    if dialog.mStatus.isEnded then
      some (.operation (.addMessage dialog.mDialogId (p.endedMessage dialog.mStatus)))
    else none
  | setActiveDialog dialogId => some (.operation (.setActiveDialog dialogId))
  | addMessage dialogId message => some (.operation (.addMessage dialogId message))
  | addToActiveDialog message => some (.operation (.addToActiveDialogWithWrapper message false))
  | updateMessage dialogId number status => some (.updateMessage dialogId number status)
  | _ => none

/-- The container after a change, if there is one. -/
def MessageContainer.changed (container : MessageContainer) : Option Change → MessageContainer
  | some change => container.change change
  | none => container

variable {p env}

theorem addToActiveDialog_mMessageContainer (message : Str) (s : Core w) :
    (MessageActionHandler.addToActiveDialogWithWrapper p message s).2.mMessageContainer =
      s.mMessageContainer.perform (.addToActiveDialogWithWrapper message false) := by
  rw [MessageActionHandler.addToActiveDialogWithWrapper, Eff.reads_bind, MessageContainer.perform]
  cases s.mMessageContainer.addToActiveDialogWithWrapper message false with
  | none => rfl
  | some added => rfl

theorem emplaceCipher_mMessageContainer (s : Core w) (dialogId : Str) (element : DialogElement) :
    (s.emplaceCipher dialogId element).mMessageContainer = s.mMessageContainer := by
  unfold Core.emplaceCipher
  split <;> rfl

theorem Atom.exec_mMessageContainer (a : Atom w) (s : Core w) :
    (a.exec p env s).2.mMessageContainer = s.mMessageContainer.changed (a.change p) := by
  cases a with
  | saveDialog dialog =>
    show s.mMessageContainer.dialogChanged p.dgettext dialog = _
    unfold dialogChanged
    by_cases ended : dialog.mStatus.isEnded = true
    · rw [if_pos ended, Atom.change, if_pos ended]
      rfl
    · rw [if_neg ended, Atom.change, if_neg ended]
      rfl
  | addToActiveDialog message => exact addToActiveDialog_mMessageContainer message s
  | transmit channel message =>
    have leaves : Eff.Leaves (fun s : Core w => s.mMessageContainer)
        (channelSendMessage env channel message) :=
      channelSendMessage_leaves env (fun _ _ => rfl) channel message
    exact leaves s
  | generateAndExportKey dialogId address =>
    have leaves : Eff.Leaves (fun s : Core w => s.mMessageContainer)
        (SecureDialogues.generateAndExportKey p env dialogId address) :=
      generateAndExportKey_leaves p env emplaceCipher_mMessageContainer dialogId address
    exact leaves s
  | importKey dialogId message =>
    have leaves : Eff.Leaves (fun s : Core w => s.mMessageContainer)
        (SecureDialogues.importKey p dialogId message) :=
      importKey_leaves p emplaceCipher_mMessageContainer dialogId message
    exact leaves s
  | addDialog dialog =>
    show (SecureDialogues.addDialog p dialog s).2.mMessageContainer = _
    rw [SecureDialogues.addDialog, Eff.reads_bind]
    split <;> rfl
  | addDiscovered discovered =>
    rw [Atom.exec, Eff.reads_bind]
    split <;> rfl
  | wrapper | getContact | createSignature | checkVerificationString | encryptMessageBody
  | decryptMessageBody =>
    have leaves {α : Type} (f : Core w → Except Exn α) :
        Eff.Leaves (fun s : Core w => s.mMessageContainer) (Eff.readsOr f) := .readsOr f
    exact leaves _ s
  | _ => rfl

end SecureDialogues
