import SecureDialogues.Lib.Table
import SecureDialogues.Primitives.Dialog

/-!
# The message log shown to the user

`messages/src/containers/messagecontainer.cpp`, `usermessage.h` and
`messages/src/utils/systemmessagegenerator.cpp`. A `std::shared_ptr<UserMessage>` is a number that
the container gives out once; the messages are kept by dialog and carry their number.
-/

namespace SecureDialogues

open Text

namespace UserMessage

/-- `UserMessage::Status`. -/
inductive Status where
  | waitDelivery
  | deliveried
  | notDeliveried
  | error
  deriving DecidableEq, Repr

/-- `UserMessage::Type`. -/
inductive Kind where
  | incoming
  | outgoing
  | system
  deriving DecidableEq, Repr

end UserMessage

/-- `UserMessage` (`usermessage.h:66-69`). -/
structure UserMessage where
  mStatus : UserMessage.Status
  mType : UserMessage.Kind
  mContent : Str
  deriving DecidableEq, Repr

/-- `UserMessage::updateStatus`. -/
def UserMessage.updateStatus (message : UserMessage) (status : UserMessage.Status) : UserMessage :=
  { message with mStatus := status }

/-- The calls on the registered `MessageContainerEventHandler`s. -/
inductive ContainerNotice where
  | activeDialogChanged (dialogId : Str)
  | peekMessage (message : UserMessage)
  | messageAdded (dialogId : Str) (message : UserMessage)
  | invalidateData (dialogId : Str)
  deriving DecidableEq, Repr

/-- `MessageContainer` (`messagecontainer.h:147-150`). `mNext` is the number of the next message;
`notices` is what the event handlers have been told. -/
structure MessageContainer where
  mMessages : Table (List (Nat × UserMessage))
  mActiveDialog : Str
  mNext : Nat
  notices : List ContainerNotice
  deriving DecidableEq

namespace MessageContainer

/-- The container after its construction. -/
def empty : MessageContainer where
  mMessages := ∅
  mActiveDialog := []
  mNext := 0
  notices := []

variable (container : MessageContainer)

/-- The messages of a dialog, as the user sees them. -/
def messagesOf (dialogId : Str) : List UserMessage :=
  ((container.mMessages[dialogId]?).getD []).map Prod.snd

/-- Tell the event handlers. -/
def notify (notices : List ContainerNotice) : MessageContainer :=
  { container with notices := container.notices ++ notices }

/-- `notifyPeekAllMessagesFromActive` (`messagecontainer.cpp:166-177`). -/
def notifyPeekAllMessagesFromActive : MessageContainer :=
  container.notify ((container.messagesOf container.mActiveDialog).map .peekMessage)

/-- `addMessage` with a message object (`messagecontainer.cpp:33-39`). -/
def addMessage (dialogId : Str) (message : UserMessage) : MessageContainer :=
  let messages := (container.mMessages[dialogId]?).getD []
  { container with
    mMessages := container.mMessages.insert dialogId (messages ++ [(container.mNext, message)])
    mNext := container.mNext + 1
    notices := container.notices ++ [.messageAdded dialogId message] }

@[simp] theorem addMessage_mActiveDialog (dialogId : Str) (message : UserMessage) :
    (container.addMessage dialogId message).mActiveDialog = container.mActiveDialog := rfl

theorem messagesOf_addMessage (dialogId other : Str) (message : UserMessage) :
    (container.addMessage dialogId message).messagesOf other =
      container.messagesOf other ++ if dialogId = other then [message] else [] := by
  simp only [messagesOf, addMessage, getElem?_insert]
  by_cases same : dialogId = other
  · simp [same]
  · simp [same]

/-- The message that `addMessage` makes of a text (`messagecontainer.cpp:21-31`). -/
def textMessage (message : Str) (isIncome : Bool) : UserMessage where
  mStatus := if isIncome then .deliveried else .waitDelivery
  mType := if isIncome then .incoming else .outgoing
  mContent := message

/-- `addMessage` with a text. -/
def addText (dialogId message : Str) (isIncome : Bool) : MessageContainer :=
  container.addMessage dialogId (textMessage message isIncome)

/-- `addToActiveDialogWithWrapper` (`messagecontainer.cpp:41-79`): the number of the message is
its wrapper. There is no result if the active dialog has no messages entry. -/
def addToActiveDialogWithWrapper (message : Str) (isIncome : Bool) :
    Option (MessageContainer × Nat) :=
  if container.mActiveDialog ∈ container.mMessages then
    some (container.addText container.mActiveDialog message isIncome, container.mNext)
  else none

/-- `addMessageToActivedialog` (`messagecontainer.cpp:84-95`). There is no result if the active
dialog has no messages entry. -/
def addMessageToActivedialog (message : Str) (isIncome : Bool) : Option MessageContainer :=
  if container.mActiveDialog ∈ container.mMessages then
    some (container.addText container.mActiveDialog message isIncome)
  else none

/-- `setActiveDialog` (`messagecontainer.cpp:8-19`). -/
def setActiveDialog (dialogId : Str) : MessageContainer :=
  if dialogId = [] then { container with mActiveDialog := [] }
  else if dialogId ≠ container.mActiveDialog then
    let opened := { container with
      mActiveDialog := dialogId
      mMessages := container.mMessages.insertIfNew dialogId [] }
    (opened.notify [.activeDialogChanged dialogId]).notifyPeekAllMessagesFromActive
  else container

/-- The selection of a dialog leaves the logs as they are. -/
theorem messagesOf_setActiveDialog (dialogId other : Str) :
    (container.setActiveDialog dialogId).messagesOf other = container.messagesOf other := by
  unfold setActiveDialog
  split
  · rfl
  split
  · simp only [notifyPeekAllMessagesFromActive, notify, messagesOf, getElem?_insertIfNew]
    split
    · rename_i opened
      rw [← opened.1, opened.2]
      rfl
    · rfl
  · rfl

/-- `Wrapper::get()->updateStatus(status)` and then `Wrapper::save`, which announces the change
(`messagecontainer.cpp:109-117`). -/
def updateMessage (dialogId : Str) (number : Nat) (status : UserMessage.Status) :
    MessageContainer :=
  match container.mMessages[dialogId]? with
  | none => container
  | some messages =>
    { container with
      mMessages := container.mMessages.insert dialogId
        (messages.map fun message =>
          if message.1 = number then (number, message.2.updateStatus status) else message)
      notices := container.notices ++ [.invalidateData dialogId] }

/-- A new status of a message leaves the kinds and the texts of the messages as they are. -/
theorem map_messagesOf_updateMessage (dialogId : Str) (number : Nat) (status : UserMessage.Status)
    (other : Str) : ((container.updateMessage dialogId number status).messagesOf other).map
        (fun message => (message.mType, message.mContent)) =
      (container.messagesOf other).map fun message => (message.mType, message.mContent) := by
  unfold updateMessage
  split
  · rfl
  · rename_i messages found
    simp only [messagesOf, getElem?_insert]
    split
    · rename_i same
      rw [← same, found, Option.getD_some, Option.getD_some, List.map_map, List.map_map,
        List.map_map]
      apply List.map_congr_left
      intro message _
      simp only [Function.comp_apply]
      split <;> rfl
    · rfl

/-- `removeDialog` (`messagecontainer.cpp:138-153`): the place of the active dialog is taken by the
first of those that are left. -/
def removeDialog (dialogId : Str) : MessageContainer :=
  let erased := { container with mMessages := container.mMessages.erase dialogId }
  if dialogId = container.mActiveDialog then
    match erased.mMessages.minKey? with
    | none => { erased with mActiveDialog := [] }
    | some first =>
      ({ erased with mActiveDialog := first }.notify
        [.activeDialogChanged first]).notifyPeekAllMessagesFromActive
  else erased

end MessageContainer

/-- `get_message` of `systemmessagegenerator.cpp:12-22`, for the statuses it is asked for. -/
def endedText (status : Status) : Str :=
  if status = .aborted then str "Dialog was aborted" else str "Dialog was closed"

/-- `SystemMessageGenerator::changed` (`systemmessagegenerator.cpp:35-45`); `dgettext` is the
translation of the user's language. -/
def MessageContainer.dialogChanged {w : Nat} (container : MessageContainer)
    (dgettext : Str → Str) (dialog : Dialog w) : MessageContainer :=
  if dialog.mStatus.isEnded then
    container.addMessage dialog.mDialogId
      { mStatus := .deliveried, mType := .system, mContent := dgettext (endedText dialog.mStatus) }
  else container

end SecureDialogues
