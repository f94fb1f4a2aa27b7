import SecureDialogues.Communication.DeliveryHandlers

/-!
# Texts

`messages/src/communication/messageactionhandler.cpp`.
-/

namespace SecureDialogues

open Text Effect

section

variable {w : Nat} (p : Platform w) (env : Env w)

/-- `mMessageContainer->addMessage` with a message object. -/
def addMessage (dialogId : Str) (message : UserMessage) : M w Unit :=
  Eff.update fun s => { s with
    mMessageContainer := s.mMessageContainer.addMessage dialogId message }

namespace MessageActionHandler

/-- `isItYouAction` (`messageactionhandler.cpp:106-109`). -/
def isItYouAction (action : Action) : Bool := action == .message

/-- The body of `abortOnException` for a stored dialog
(`messageactionhandler.cpp:163-173`). -/
def abortStored (message : DialogMessage w) (channel : Str) : M w Unit := do
  let dialog ← wrapper p message.mDialogId
  let contact ← getContact p dialog.mContactId
  let dialog := dialog.makeNextSequental
  let mess := makeAbort env.getTimestamp dialog.mDialogId contact.adress dialog.mThisSequental
  let dialog ← setStatus p dialog .aborted
  sendAndForget env mess channel
  save p dialog

/-- `abortOnException` (`messageactionhandler.cpp:151-189`); the exceptions of its own body are
only logged. -/
def abortOnException (message : DialogMessage w) (channel : Str) : M w Unit :=
  Eff.catching
    (do
      addMessage message.mDialogId {
        mStatus := .error
        mType := .system
        mContent := p.text
          "Error occured during message handling from user \x7b\x7d. Dialog removed."
          [message.mAdress] }
      let dialogs ← Eff.reads (·.mDialogStorage)
      if dialogs.has message.mDialogId then abortStored p env message channel
      else sendAndForget env (strayAbort env message) channel)
    fun _ => pure ()

/-- The text of an accepted message (`messageactionhandler.cpp:94-97`). -/
def acceptText (message : DialogMessage w) : M w Unit := do
  let content ← Eff.readsOr fun s =>
    decryptMessageBody p s.mCiphers message.mDialogId message.mContent
  Eff.update fun s => { s with
    mMessageContainer := s.mMessageContainer.addText message.mDialogId content true }
  Eff.update (·.record (.textAdded message.mDialogId message.mSequentialNumber content))

/-- `handle` (`messageactionhandler.cpp:60-104`). The dialog that `isSequentalOk` changes is a
copy that is dropped. -/
def handle (message : DialogMessage w) (channel : Str) : M w Unit :=
  Eff.catching
    (do
      let dialogs ← Eff.reads (·.mDialogStorage)
      if dialogs.has message.mDialogId then do
        let dialog ← wrapper p message.mDialogId
        match dialog.isSequentalOk message.mSequentialNumber with
        | none => pure ()
        | some _ => acceptText p message
      else do
        notify .error
          (p.text ("Recieved message from \x7b\x7d. With specified user " ++
            "has no opened dialogs") [message.mAdress])
        sendAndForget env (strayAbort env message) channel)
    fun _ => abortOnException p env message channel

/-- `addToActiveDialogWithWrapper`, which throws if the active dialog has no entry. -/
def addToActiveDialogWithWrapper (message : Str) : M w DeliveryHandler := do
  let container ← Eff.reads (·.mMessageContainer)
  match container.addToActiveDialogWithWrapper message false with
  | some (container, number) => do
    Eff.update fun s => { s with mMessageContainer := container }
    pure (.messageNotDeliveried container.mActiveDialog number)
  | none => Eff.raise {
      kind := .runtimeError
      what := p.text "MessageConteiner not contains active dialog id: [\x7b\x7d]"
        [container.mActiveDialog] }

/-- The body of `sendMessage` (`messageactionhandler.cpp:117-136`). -/
def sendText (dialogId message : Str) : M w Unit := do
  let dialog ← wrapper p dialogId
  let contact ← getContact p dialog.mContactId
  let (msg, dialog) ← makeTextMessage p env dialog contact message
  save p dialog
  let content ← Eff.readsOr fun s => encryptMessageBody p s.mCiphers msg.mDialogId msg.mContent
  let handler ← addToActiveDialogWithWrapper p message
  SecureDialogues.sendMessage env (msg.setContent content) contact.channelMoniker handler

/-- `sendMessage` (`messageactionhandler.cpp:111-145`). -/
def sendMessage (message : Str) : M w Unit := do
  let dialogId ← Eff.reads (·.mMessageContainer.mActiveDialog)
  if dialogId = [] then notify .error (p.text "Select one dialog for texting" [])
  Eff.catching (sendText p env dialogId message) fun ex =>
    addMessage dialogId {
      mStatus := .error
      mType := .system
      mContent := p.text "Failed to send messsage, reason: \x7b\x7d" [ex.what] }

/-- `setActiveDialog` (`messageactionhandler.cpp:147-149`). -/
def setActiveDialog (dialogId : Str) : M w Unit :=
  Eff.update fun s => { s with
    mMessageContainer := s.mMessageContainer.setActiveDialog dialogId }

end MessageActionHandler

end

end SecureDialogues
