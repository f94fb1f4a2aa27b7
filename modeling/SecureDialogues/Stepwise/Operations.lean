import SecureDialogues.Stepwise.Atom

/-!
# The operations by their atomic steps

Each operation of an instance once more, in the words of the source, as the sequence of its atomic
steps. Run without interruption each of them is the operation of the model
(`run_removed` to `run_dispatch`).
-/

namespace SecureDialogues

open Text Effect

section

variable {w : Nat} (p : Platform w) (env : Env w)

namespace Steps

/-- One step. -/
abbrev step (a : Atom w) : Steps w a.Result := Prog.atom a

/-! ## Sending -/

def channelSendMessage (channelName : Str) (message : DialogMessage w) : Steps w Unit :=
  step (.transmit channelName message)

def sendMessage (message : DialogMessage w) (channelName : Str)
    (deliveryHandler : DeliveryHandler) : Steps w Unit := do
  match ← step (.findChannel channelName) with
  | none => pure ()
  | some waitAckInterval => do
    let sign ← step (.createSignature message)
    let message := message.setSignature sign
    step (.storeDelivery deliveryHandler (message.mDialogId, message.mSequentialNumber)
      waitAckInterval)
    channelSendMessage channelName message

def sendAndForget (message : DialogMessage w) (channelName : Str) : Steps w Unit := do
  let sign ← step (.createSignature message)
  let message := message.setSignature sign
  match ← step (.findChannel channelName) with
  | some _ => channelSendMessage channelName message
  | none => pure ()

def sendAck (message : DialogMessage w) (channel : Str) : Steps w Unit := do
  let connected ← step (.findChannel channel)
  if message.mAction ≠ .abort ∧ 0 < message.mSequentialNumber ∧ connected.isSome = true then
    sendAndForget (makeAck env.getTimestamp message) channel
  else pure ()

def makeMessage (action : Action) (dialog : Dialog w) (contact : Contact) (content : Str) :
    Steps w (DialogMessage w × Dialog w) :=
  if isMessageActionAllowed dialog.mStatus action then
    pure (requestMessage env action dialog contact content, dialog.makeNextSequental)
  else Prog.raise {
    kind := .invalidDialogAction
    what := p.text "Message with action \x7b\x7d cant be made for dialog state \x7b\x7d"
      [printNat action.toNat, printNat dialog.mStatus.toNat] }

def setStatus (dialog : Dialog w) (status : Status) : Steps w (Dialog w) :=
  if isStateTransitionAllowed dialog.mStatus status then pure (dialog.withStatus status)
  else Prog.raise {
    kind := .runtimeError
    what := p.text "Dialog status transision from state \x7b\x7d to \x7b\x7d is not allowed"
      [printNat dialog.mStatus.toNat, printNat status.toNat] }

/-! ## Delivery callbacks -/

def removed : DeliveryHandler → Steps w Unit
  | .dialogAction dialogId mNext _ _ _ => do
    let dialog ← step (.wrapper dialogId)
    let dialog ← setStatus p dialog mNext
    step (.saveDialog dialog)
  | .messageNotDeliveried dialogId number => step (.updateMessage dialogId number .deliveried)

def timeouted : DeliveryHandler → Steps w Unit
  | .dialogAction dialogId _ mAbortNeed mAddress mChannel => do
    let dialog ← step (.wrapper dialogId)
    let dialog ←
      if mAbortNeed then do
        let dialog := Dialog.makeNextSequental dialog
        sendAndForget
          (makeAbort env.getTimestamp dialog.mDialogId mAddress dialog.mThisSequental) mChannel
        pure dialog
      else pure dialog
    step (.notify .error
      (p.text "Dialog with \x7b\x7d was removed because participant didn't respond" [mAddress]))
    let dialog ← setStatus p dialog .aborted
    step (.saveDialog dialog)
  | .messageNotDeliveried dialogId number => step (.updateMessage dialogId number .notDeliveried)

def removeEntry (k : NumberedKey w) : Steps w Bool := do
  match ← step (.findDelivery k) with
  | none => pure false
  | some stored => do
    removed p stored.element
    step (.eraseDelivery k)
    pure true

def expireEntry (k : NumberedKey w) : Steps w Unit := Prog.noexcept do
  match ← step (.overdueDelivery k) with
  | none => pure ()
  | some element => do
    timeouted p env element
    step (.eraseDelivery k)

/-! ## Texts -/

namespace MessageActionHandler

def abortStored (message : DialogMessage w) (channel : Str) : Steps w Unit := do
  let dialog ← step (.wrapper message.mDialogId)
  let contact ← step (.getContact dialog.mContactId)
  let dialog := Dialog.makeNextSequental dialog
  let mess := makeAbort env.getTimestamp dialog.mDialogId contact.adress dialog.mThisSequental
  let dialog ← setStatus p dialog .aborted
  sendAndForget mess channel
  step (.saveDialog dialog)

def abortOnException (message : DialogMessage w) (channel : Str) : Steps w Unit :=
  Prog.catching
    (do
      step (.addMessage message.mDialogId {
        mStatus := .error
        mType := .system
        mContent := p.text
          "Error occured during message handling from user {}. Dialog removed."
          [message.mAdress] })
      let stored ← step (.hasDialog message.mDialogId)
      if stored = true then abortStored p env message channel
      else sendAndForget (strayAbort env message) channel)
    fun _ => pure ()

def acceptText (message : DialogMessage w) : Steps w Unit := do
  let content ← step (.decryptMessageBody message.mDialogId message.mContent)
  step (.addMessage message.mDialogId (MessageContainer.textMessage content true))
  step (.record (.textAdded message.mDialogId message.mSequentialNumber content))

def handle (message : DialogMessage w) (channel : Str) : Steps w Unit :=
  Prog.catching
    (do
      let stored ← step (.hasDialog message.mDialogId)
      if stored = true then do
        let dialog ← step (.wrapper message.mDialogId)
        match Dialog.isSequentalOk dialog message.mSequentialNumber with
        | none => pure ()
        | some _ => acceptText message
      else do
        step (.notify .error
          (p.text ("Recieved message from {}. With specified user " ++
            "has no opened dialogs") [message.mAdress]))
        sendAndForget (strayAbort env message) channel)
    fun _ => abortOnException p env message channel

def sendText (dialogId message : Str) : Steps w Unit := do
  let dialog ← step (.wrapper dialogId)
  let contact ← step (.getContact dialog.mContactId)
  let (msg, dialog) ← makeMessage p env .message dialog contact message
  step (.saveDialog dialog)
  let content ← step (.encryptMessageBody msg.mDialogId msg.mContent)
  let handler ← step (.addToActiveDialog message)
  Steps.sendMessage (msg.setContent content) contact.channelMoniker handler

def sendMessage (message : Str) : Steps w Unit := do
  let dialogId ← step .activeDialog
  if dialogId = [] then step (.notify .error (p.text "Select one dialog for texting" []))
  Prog.catching (sendText p env dialogId message) fun ex =>
    step (.addMessage dialogId {
      mStatus := .error
      mType := .system
      mContent := p.text "Failed to send messsage, reason: {}" [ex.what] })

end MessageActionHandler

/-! ## Control messages and the user's dialog operations -/

namespace DialogActionHandler

open SecureDialogues.DialogActionHandler (map)

def sendRequest (dialogId : Str) (action : Action) (handler : DeliveryHandler) (content : Str) :
    Steps w Unit := do
  let dialog ← step (.wrapper dialogId)
  let contact ← step (.getContact dialog.mContactId)
  let (msg, dialog) ← makeMessage p env action dialog contact content
  sendMessage msg contact.channelMoniker handler
  step (.saveDialog dialog)

def abortDialog (dialogId : Str) : Steps w Unit := do
  let dialog ← step (.wrapper dialogId)
  let contact ← step (.getContact dialog.mContactId)
  if isMessageActionAllowed dialog.mStatus .abort then do
    let dialog := Dialog.makeNextSequental dialog
    sendAndForget
      (makeAbort env.getTimestamp dialog.mDialogId contact.adress dialog.mThisSequental)
      contact.channelMoniker
    let dialog ← setStatus p dialog .aborted
    step (.saveDialog dialog)
  else pure ()

def closeDialog (dialogId : Str) : Steps w Unit := do
  let dialog ← step (.wrapper dialogId)
  if dialog.mStatus = .active then do
    let contact ← step (.getContact dialog.mContactId)
    sendRequest p env dialogId .closeDialog (.forCloseDialogRequest dialogId contact) []
  else abortDialog p env dialogId

def removeDialog (dialogId : Str) : Steps w Unit := do
  closeDialog p env dialogId
  let dialog ← step (.wrapper dialogId)
  step (.removeDialog dialog.mDialogId)

def createDialog (contact : Contact) : Steps w Unit := do
  let dialog : Dialog w := .ofContact env.initSequental env.makeUiid contact.id
  step (.addDialog dialog)
  let stored ← step (.wrapper dialog.mDialogId)
  sendRequest p env dialog.mDialogId .createDialog
    (.forCreateDialogRequest stored.mDialogId contact) []

def answerCreateDialog (message : DialogMessage w) (contact : Contact) : Steps w Unit := do
  let dialog : Dialog w := .ofPeer env.initSequental contact.id message.mDialogId
    message.mSequentialNumber .createRequest
  step (.addDialog dialog)
  let stored ← step (.wrapper message.mDialogId)
  let content ← step (.generateAndExportKey message.mDialogId contact.adress)
  let (msg, stored) ← makeMessage p env .verifyKey stored contact content
  sendMessage msg contact.channelMoniker
    (.forWaitVerificationDialogRequest stored.mDialogId contact)

def prepareNotFoundDialog (message : DialogMessage w) (channel : Str) : Steps w Unit := do
  if message.mAction = .abort then pure ()
  else if message.mAction = .createDialog then do
    match ← step (.contactsAt message.mAdress channel) with
    | contact :: _ => answerCreateDialog p env message contact
    | [] => do
      step (.notify .error
        (p.text ("Address '{}' sent a request for dialog creation, but " ++
          "contact with that address not found") [message.mAdress]))
      sendAndForget (strayAbort env message) channel
  else sendAndForget (strayAbort env message) channel

def prepareVerifyKey (message : DialogMessage w) : Steps w Unit := do
  let dialog ← step (.wrapper message.mDialogId)
  let contact ← step (.getContact dialog.mContactId)
  let res ← step (.importKey message.mDialogId message.mContent)
  sendRequest p env message.mDialogId .keyVerification
    (.forCreateDialogRequest dialog.mDialogId contact) res

def prepareKeyVerification (message : DialogMessage w) : Steps w Unit := do
  let verified ← step (.checkVerificationString message.mDialogId message.mContent)
  if verified = true then do
    let dialog ← step (.wrapper message.mDialogId)
    let contact ← step (.getContact dialog.mContactId)
    sendRequest p env message.mDialogId .acceptDialog
      (.forActiveDialogRequest dialog.mDialogId contact) []
  else do
    abortDialog p env message.mDialogId
    step (.notify .info
      (p.text "Failed to verify seance key for contact {}. Dialog aborted"
        [message.mAdress]))

def prepareStatusChange (message : DialogMessage w) : Steps w Unit := do
  let dialog ← step (.wrapper message.mDialogId)
  let contact ← step (.getContact dialog.mContactId)
  match map p message.mAction with
  | none => Prog.terminate
  | some status => do
    let dialog ← setStatus p dialog status
    step (.saveDialog dialog)
    step (.notify .info (dialogToString p dialog contact))

def prepareForFoundDialog (message : DialogMessage w) : Steps w Unit :=
  if message.mAction = .verifyKey then prepareVerifyKey p env message
  else if message.mAction = .keyVerification then prepareKeyVerification p env message
  else prepareStatusChange p message

def prepareHandleException (message : DialogMessage w) (channel : Str) : Steps w Unit :=
  Prog.catching
    (do
      let stored ← step (.hasDialog message.mDialogId)
      if stored = true then abortDialog p env message.mDialogId
      else sendAndForget (strayAbort env message) channel)
    fun _ => pure ()

def handle (message : DialogMessage w) (channel : Str) : Steps w Unit :=
  Prog.catching
    (do
      let stored ← step (.hasDialog message.mDialogId)
      if stored = true then do
        let dialog ← step (.wrapper message.mDialogId)
        match Dialog.isSequentalOk dialog message.mSequentialNumber with
        | none => pure ()
        | some dialog => do
          step (.saveDialog dialog)
          step (.record (.controlTaken message.mDialogId message.mSequentialNumber))
          prepareForFoundDialog p env message
      else prepareNotFoundDialog p env message channel)
    fun _ => prepareHandleException p env message channel

end DialogActionHandler

/-! ## Receiving -/

def despatchError (error : DespatchError) (message : DialogMessage w) (channelMoniker : Str) :
    Steps w Unit :=
  match error with
  | .contactNotFound =>
    if message.mAction = .contactDiscover then do
      let (name, publicKey) ← Prog.lift
        (DiscoverContactAgent.getNameAndPublickKey p message.mContent)
      step (.addDiscovered {
        created := env.systemClock
        channelMoniker
        contactAdress := message.mAdress
        publicKey
        name
        dialogId := message.mDialogId })
    else pure ()
  | .exceptionThrown | .signatureBroken | .messageExpired => pure ()

def isSignatureValid (message : DialogMessage w) (channelName : Str) : Steps w Bool :=
  Prog.noexcept do
    match ← step (.isSignatureOk message) with
    | .ok valid => pure valid
    | .error e => do
      if e.kind = .rangeError then despatchError p env .contactNotFound message channelName
      else despatchError p env .exceptionThrown message channelName
      pure false

def runHandlers (message : DialogMessage w) (channelName : Str) : Steps w Unit := do
  if SecureDialogues.MessageActionHandler.isItYouAction message.mAction then
    MessageActionHandler.handle p env message channelName
  if SecureDialogues.DialogActionHandler.isItYouAction message.mAction then
    DialogActionHandler.handle p env message channelName

def dispatchMessage (message : DialogMessage w) (channelName : Str) : Steps w Unit := do
  sendAck env message channelName
  let valid ← isSignatureValid p env message channelName
  if valid = false then despatchError p env .signatureBroken message channelName
  else if isExpired env message then despatchError p env .messageExpired message channelName
  else runHandlers p env message channelName

def dispatch (message : DialogMessage w) (channelName : Str) : Steps w Unit :=
  Prog.noexcept do
    if message.mAction = .ack then do
      let _ ← removeEntry p (message.mDialogId, message.mSequentialNumber)
      pure ()
    else dispatchMessage p env message channelName

section Runs

variable {p env}

@[simp] theorem run_makeMessage (action : Action) (dialog : Dialog w) (contact : Contact)
    (content : Str) : (makeMessage p env action dialog contact content).run (Atom.exec p env) =
      SecureDialogues.makeMessage p env action dialog contact content := by
  rw [makeMessage, Prog.run_ite]
  rfl

@[simp] theorem run_setStatus (dialog : Dialog w) (status : Status) :
    (setStatus p dialog status).run (Atom.exec p env) =
      SecureDialogues.setStatus p dialog status := by
  rw [setStatus, Prog.run_ite]
  rfl

@[simp] theorem run_sendMessage (message : DialogMessage w) (channelName : Str)
    (deliveryHandler : DeliveryHandler) :
    (sendMessage message channelName deliveryHandler).run (Atom.exec p env) =
      SecureDialogues.sendMessage env message channelName deliveryHandler := by
  funext s
  simp only [sendMessage, SecureDialogues.sendMessage, Prog.run_bind, Prog.run_atom, Atom.exec,
    Eff.reads_bind]
  cases s.mChannels[channelName]? with
  | none => rfl
  | some waitAckInterval =>
    simp only [channelSendMessage, Prog.run_bind, Prog.run_atom, Atom.exec]

@[simp] theorem run_sendAndForget (message : DialogMessage w) (channelName : Str) :
    (sendAndForget message channelName).run (Atom.exec p env) =
      SecureDialogues.sendAndForget env message channelName := by
  simp only [sendAndForget, SecureDialogues.sendAndForget, Prog.run_bind, Prog.run_atom,
    Atom.exec]
  congr 1
  funext sign s
  simp only [Eff.reads_bind]
  cases found : s.mChannels[channelName]? with
  | none =>
    rw [if_neg (by simpa using found)]
    rfl
  | some waitAckInterval =>
    have connected : channelName ∈ s.mChannels := by
      rw [← Std.ExtTreeMap.isSome_getElem?_iff_mem, found]
      rfl
    rw [if_pos connected]
    rfl

@[simp] theorem run_sendAck (message : DialogMessage w) (channel : Str) :
    (sendAck env message channel).run (Atom.exec p env) =
      SecureDialogues.sendAck env message channel := by
  funext s
  simp only [sendAck, SecureDialogues.sendAck, Prog.run_bind, Prog.run_atom, Prog.run_ite,
    Prog.run_pure, run_sendAndForget, Atom.exec, Eff.reads_bind,
    Std.ExtTreeMap.isSome_getElem?_iff_mem]

@[simp] theorem run_removed (handler : DeliveryHandler) :
    (removed p handler).run (Atom.exec p env) = SecureDialogues.removed p handler := by
  cases handler with
  | dialogAction dialogId mNext mAbortNeed mAddress mChannel =>
    simp only [removed, SecureDialogues.removed, Prog.run_bind, Prog.run_atom, run_setStatus,
      Atom.exec]
  | messageNotDeliveried dialogId number => rfl

@[simp] theorem run_timeouted (handler : DeliveryHandler) :
    (timeouted p env handler).run (Atom.exec p env) = SecureDialogues.timeouted p env handler := by
  cases handler with
  | dialogAction dialogId mNext mAbortNeed mAddress mChannel =>
    simp only [timeouted, SecureDialogues.timeouted, Prog.run_bind, Prog.run_atom, Prog.run_ite,
      Prog.run_pure, run_setStatus, run_sendAndForget, Atom.exec]
  | messageNotDeliveried dialogId number => rfl

@[simp] theorem run_removeEntry (k : NumberedKey w) :
    (removeEntry p k).run (Atom.exec p env) = SecureDialogues.removeEntry p k := by
  funext s
  simp only [removeEntry, SecureDialogues.removeEntry, Prog.run_bind, Prog.run_atom, Atom.exec,
    Eff.reads_bind]
  cases s.mRepo[k]? with
  | none => rfl
  | some stored =>
    simp only [Prog.run_bind, Prog.run_atom, Prog.run_pure, run_removed, Atom.exec]

@[simp] theorem run_expireEntry (k : NumberedKey w) :
    (expireEntry p env k).run (Atom.exec p env) = SecureDialogues.expireEntry p env k := by
  rw [expireEntry, SecureDialogues.expireEntry, Prog.run_noexcept]
  congr 1
  funext s
  simp only [Prog.run_bind, Prog.run_atom, Atom.exec, Eff.reads_bind]
  cases s.mRepo.overdue env.systemClock k with
  | none => rfl
  | some element => simp only [Prog.run_bind, Prog.run_atom, run_timeouted, Atom.exec]

namespace MessageActionHandler

@[simp] theorem run_abortStored (message : DialogMessage w) (channel : Str) :
    (abortStored p env message channel).run (Atom.exec p env) =
      SecureDialogues.MessageActionHandler.abortStored p env message channel := by
  simp only [abortStored, SecureDialogues.MessageActionHandler.abortStored, Prog.run_bind,
    Prog.run_atom, run_setStatus, run_sendAndForget, Atom.exec]

@[simp] theorem run_abortOnException (message : DialogMessage w) (channel : Str) :
    (abortOnException p env message channel).run (Atom.exec p env) =
      SecureDialogues.MessageActionHandler.abortOnException p env message channel := by
  simp only [abortOnException, SecureDialogues.MessageActionHandler.abortOnException,
    Prog.run_catching, Prog.run_bind, Prog.run_atom, Prog.run_ite, Prog.run_pure,
    run_abortStored, run_sendAndForget, Atom.exec]
  rfl

@[simp] theorem run_acceptText (message : DialogMessage w) :
    (acceptText message).run (Atom.exec p env) =
      SecureDialogues.MessageActionHandler.acceptText p message := by
  simp only [acceptText, SecureDialogues.MessageActionHandler.acceptText, Prog.run_bind,
    Prog.run_atom, Atom.exec]
  rfl

@[simp] theorem run_handle (message : DialogMessage w) (channel : Str) :
    (handle p env message channel).run (Atom.exec p env) =
      SecureDialogues.MessageActionHandler.handle p env message channel := by
  simp only [handle, SecureDialogues.MessageActionHandler.handle, Prog.run_catching,
    Prog.run_bind, Prog.run_atom, Prog.run_ite, run_sendAndForget, run_abortOnException, Atom.exec]
  congr 1
  funext s
  simp only [Eff.reads_bind]
  split
  · refine congrFun (bind_congr ?_) s
    intro dialog
    cases dialog.isSequentalOk message.mSequentialNumber with
    | none => rfl
    | some next => rw [run_acceptText]
  · rfl

@[simp] theorem run_sendText (dialogId message : Str) :
    (sendText p env dialogId message).run (Atom.exec p env) =
      SecureDialogues.MessageActionHandler.sendText p env dialogId message := by
  simp only [sendText, SecureDialogues.MessageActionHandler.sendText,
    SecureDialogues.makeTextMessage, Prog.run_bind, Prog.run_atom, run_makeMessage,
    run_sendMessage, Atom.exec]

@[simp] theorem run_sendMessage (message : Str) :
    (sendMessage p env message).run (Atom.exec p env) =
      SecureDialogues.MessageActionHandler.sendMessage p env message := by
  simp only [sendMessage, SecureDialogues.MessageActionHandler.sendMessage, Prog.run_bind,
    Prog.run_atom, Atom.exec]
  congr 1
  funext dialogId
  split
  · simp only [Prog.run_bind, Prog.run_catching, Prog.run_atom, run_sendText, Atom.exec]
  · simp only [Prog.run_catching, Prog.run_atom, run_sendText, Atom.exec]

end MessageActionHandler

namespace DialogActionHandler

@[simp] theorem run_sendRequest (dialogId : Str) (action : Action) (handler : DeliveryHandler)
    (content : Str) : (sendRequest p env dialogId action handler content).run (Atom.exec p env) =
      SecureDialogues.DialogActionHandler.sendRequest p env dialogId action handler content := by
  simp only [sendRequest, SecureDialogues.DialogActionHandler.sendRequest, Prog.run_bind,
    Prog.run_atom, run_makeMessage, Steps.run_sendMessage, Atom.exec]

@[simp] theorem run_abortDialog (dialogId : Str) :
    (abortDialog p env dialogId).run (Atom.exec p env) =
      SecureDialogues.DialogActionHandler.abortDialog p env dialogId := by
  simp only [abortDialog, SecureDialogues.DialogActionHandler.abortDialog, Prog.run_bind,
    Prog.run_atom, Prog.run_ite, Prog.run_pure, run_setStatus, run_sendAndForget, Atom.exec]

@[simp] theorem run_closeDialog (dialogId : Str) :
    (closeDialog p env dialogId).run (Atom.exec p env) =
      SecureDialogues.DialogActionHandler.closeDialog p env dialogId := by
  simp only [closeDialog, SecureDialogues.DialogActionHandler.closeDialog, Prog.run_bind,
    Prog.run_atom, Prog.run_ite, run_sendRequest, run_abortDialog, Atom.exec]

@[simp] theorem run_removeDialog (dialogId : Str) :
    (removeDialog p env dialogId).run (Atom.exec p env) =
      SecureDialogues.DialogActionHandler.removeDialog p env dialogId := by
  simp only [removeDialog, SecureDialogues.DialogActionHandler.removeDialog, Prog.run_bind,
    Prog.run_atom, run_closeDialog, Atom.exec]

@[simp] theorem run_createDialog (contact : Contact) :
    (createDialog p env contact).run (Atom.exec p env) =
      SecureDialogues.DialogActionHandler.createDialog p env contact := by
  simp only [createDialog, SecureDialogues.DialogActionHandler.createDialog, Prog.run_bind,
    Prog.run_atom, run_sendRequest, Atom.exec]

@[simp] theorem run_answerCreateDialog (message : DialogMessage w) (contact : Contact) :
    (answerCreateDialog p env message contact).run (Atom.exec p env) =
      SecureDialogues.DialogActionHandler.answerCreateDialog p env message contact := by
  simp only [answerCreateDialog, SecureDialogues.DialogActionHandler.answerCreateDialog,
    Prog.run_bind, Prog.run_atom, run_makeMessage, Steps.run_sendMessage, Atom.exec]

@[simp] theorem run_prepareNotFoundDialog (message : DialogMessage w) (channel : Str) :
    (prepareNotFoundDialog p env message channel).run (Atom.exec p env) =
      SecureDialogues.DialogActionHandler.prepareNotFoundDialog p env message channel := by
  simp only [prepareNotFoundDialog, SecureDialogues.DialogActionHandler.prepareNotFoundDialog,
    Prog.run_bind, Prog.run_atom, Prog.run_ite, Prog.run_pure, run_sendAndForget, Atom.exec]
  split
  · rfl
  · split
    · funext s
      simp only [Eff.reads_bind]
      cases SecureDialogues.DialogActionHandler.contactsAt s.mContactStorage message.mAdress
        channel with
      | cons contact rest => simp only [run_answerCreateDialog]
      | nil => simp only [Prog.run_bind, Prog.run_atom, run_sendAndForget, Atom.exec]
    · rfl

@[simp] theorem run_prepareVerifyKey (message : DialogMessage w) :
    (prepareVerifyKey p env message).run (Atom.exec p env) =
      SecureDialogues.DialogActionHandler.prepareVerifyKey p env message := by
  simp only [prepareVerifyKey, SecureDialogues.DialogActionHandler.prepareVerifyKey,
    Prog.run_bind, Prog.run_atom, run_sendRequest, Atom.exec]

@[simp] theorem run_prepareKeyVerification (message : DialogMessage w) :
    (prepareKeyVerification p env message).run (Atom.exec p env) =
      SecureDialogues.DialogActionHandler.prepareKeyVerification p env message := by
  simp only [prepareKeyVerification, SecureDialogues.DialogActionHandler.prepareKeyVerification,
    Prog.run_bind, Prog.run_atom, Prog.run_ite, run_sendRequest, run_abortDialog, Atom.exec]

@[simp] theorem run_prepareStatusChange (message : DialogMessage w) :
    (prepareStatusChange p message).run (Atom.exec p env) =
      SecureDialogues.DialogActionHandler.prepareStatusChange p message := by
  simp only [prepareStatusChange, SecureDialogues.DialogActionHandler.prepareStatusChange,
    Prog.run_bind, Prog.run_atom, Atom.exec]
  cases SecureDialogues.DialogActionHandler.map p message.mAction with
  | none => rfl
  | some status => simp only [Prog.run_bind, Prog.run_atom, run_setStatus, Atom.exec]

@[simp] theorem run_prepareForFoundDialog (message : DialogMessage w) :
    (prepareForFoundDialog p env message).run (Atom.exec p env) =
      SecureDialogues.DialogActionHandler.prepareForFoundDialog p env message := by
  simp only [prepareForFoundDialog, SecureDialogues.DialogActionHandler.prepareForFoundDialog,
    Prog.run_ite, run_prepareVerifyKey, run_prepareKeyVerification, run_prepareStatusChange]

@[simp] theorem run_prepareHandleException (message : DialogMessage w) (channel : Str) :
    (prepareHandleException p env message channel).run (Atom.exec p env) =
      SecureDialogues.DialogActionHandler.prepareHandleException p env message channel := by
  simp only [prepareHandleException, SecureDialogues.DialogActionHandler.prepareHandleException,
    Prog.run_catching, Prog.run_bind, Prog.run_atom, Prog.run_ite, Prog.run_pure,
    run_abortDialog, run_sendAndForget, Atom.exec]
  rfl

@[simp] theorem run_handle (message : DialogMessage w) (channel : Str) :
    (handle p env message channel).run (Atom.exec p env) =
      SecureDialogues.DialogActionHandler.handle p env message channel := by
  simp only [handle, SecureDialogues.DialogActionHandler.handle, Prog.run_catching,
    Prog.run_bind, Prog.run_atom, Prog.run_ite, run_prepareNotFoundDialog,
    run_prepareHandleException, Atom.exec]
  congr 1
  funext s
  simp only [Eff.reads_bind]
  split
  · refine congrFun (bind_congr ?_) s
    intro dialog
    cases dialog.isSequentalOk message.mSequentialNumber with
    | none => rfl
    | some next => simp only [Prog.run_bind, Prog.run_atom, run_prepareForFoundDialog, Atom.exec]
  · rfl

end DialogActionHandler

@[simp] theorem run_despatchError (error : DespatchError) (message : DialogMessage w)
    (channelMoniker : Str) :
    (despatchError p env error message channelMoniker).run (Atom.exec p env) =
      SecureDialogues.despatchError p env error message channelMoniker := by
  cases error with
  | contactNotFound =>
    simp only [despatchError, SecureDialogues.despatchError, Prog.run_ite, Prog.run_bind,
      Prog.run_atom, Prog.run_lift, Prog.run_pure, Atom.exec]
  | exceptionThrown => rfl
  | signatureBroken => rfl
  | messageExpired => rfl

@[simp] theorem run_isSignatureValid (message : DialogMessage w) (channelName : Str) :
    (isSignatureValid p env message channelName).run (Atom.exec p env) =
      SecureDialogues.isSignatureValid p env message channelName := by
  rw [isSignatureValid, SecureDialogues.isSignatureValid, Prog.run_noexcept]
  congr 1
  funext s
  simp only [Prog.run_bind, Prog.run_atom, Atom.exec, Eff.reads_bind]
  cases SecureDialogues.isSignatureOk p s.mRemote message with
  | ok valid => rfl
  | error e =>
    simp only [Prog.run_bind, Prog.run_ite, Prog.run_pure, run_despatchError]

@[simp] theorem run_runHandlers (message : DialogMessage w) (channelName : Str) :
    (runHandlers p env message channelName).run (Atom.exec p env) =
      SecureDialogues.runHandlers p env message channelName := by
  unfold runHandlers SecureDialogues.runHandlers
  split
  · split
    · simp only [Prog.run_bind, MessageActionHandler.run_handle, DialogActionHandler.run_handle]
    · simp only [DialogActionHandler.run_handle]
  · split
    · simp only [Prog.run_bind, Prog.run_pure, MessageActionHandler.run_handle]
    · simp only [Prog.run_pure]

@[simp] theorem run_dispatchMessage (message : DialogMessage w) (channelName : Str) :
    (dispatchMessage p env message channelName).run (Atom.exec p env) =
      SecureDialogues.dispatchMessage p env message channelName := by
  simp only [dispatchMessage, SecureDialogues.dispatchMessage, Prog.run_bind, Prog.run_ite,
    run_sendAck, run_isSignatureValid, run_despatchError, run_runHandlers]

@[simp] theorem run_dispatch (message : DialogMessage w) (channelName : Str) :
    (dispatch p env message channelName).run (Atom.exec p env) =
      SecureDialogues.dispatch p env message channelName := by
  simp only [dispatch, SecureDialogues.dispatch, Prog.run_noexcept, Prog.run_bind, Prog.run_ite,
    Prog.run_pure, run_removeEntry, run_dispatchMessage]

end Runs

end Steps

end

end SecureDialogues
