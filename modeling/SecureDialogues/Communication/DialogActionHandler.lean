import SecureDialogues.Communication.DeliveryHandlers

/-!
# Control messages and the user's dialog operations

`messages/src/communication/dialogactionhandler.cpp`. The despatcher is alive as long as its
handlers are called, so `mMessageDispatcher.lock()` succeeds throughout.
-/

namespace SecureDialogues

open Text Effect

section

variable {w : Nat} (p : Platform w) (env : Env w)

/-- `get_dialog_status_description` (`dialogactionhandler.cpp:17-45`). -/
def dialogStatusDescription : Status → String
  | .active => "User confirmed dialog creation. Now you can send messages to him."
  | .closed => "The dialog was closed"
  | .new => "New dialog"
  | .aborted => "Closed"
  | .waitConfirm =>
    "Waiting for user's decision about confirmation or refusing in dialog establishing"
  | .acceptedWait => "Waiting for confirmation of dialog creation"
  | .createRequest => "User requested the dialog creation"
  | .waitKeyVerificaion => "Waiting for key confirmation"

/-- `dialog_to_string` (`dialogactionhandler.cpp:47-52`). -/
def dialogToString (dialog : Dialog w) (contact : Contact) : Str :=
  p.text "\x7b\x7d. User: \x7b\x7d, channel: \x7b\x7d"
    [p.text (dialogStatusDescription dialog.mStatus) [], contact.name, contact.channelMoniker]

namespace DialogActionHandler

/-- `isItYouAction` (`dialogactionhandler.cpp:90-96`). -/
def isItYouAction : Action → Bool
  | .acceptDialog | .closeDialog | .createDialog | .abort | .keyVerification | .verifyKey => true
  | .message | .ack | .contactDiscover => false

/-- `map` (`dialogactionhandler.cpp:279-293`); `none` is the `assert(false)` that a build with
assertions stops at. -/
def map (action : Action) : Option Status :=
  match action with
  | .acceptDialog => some .active
  | .closeDialog => some .closed
  | .abort => some .aborted
  | _ => if p.ndebug then some .aborted else none

/-- `sendRequest` (`dialogactionhandler.cpp:151-168`). -/
def sendRequest (dialogId : Str) (action : Action) (handler : DeliveryHandler) (content : Str) :
    M w Unit := do
  let dialog ← wrapper p dialogId
  let contact ← getContact p dialog.mContactId
  let (msg, dialog) ← makeMessage p env action dialog contact content
  sendMessage env msg contact.channelMoniker handler
  save p dialog

/-- `abortDialog` (`dialogactionhandler.cpp:115-128`). -/
def abortDialog (dialogId : Str) : M w Unit := do
  let dialog ← wrapper p dialogId
  let contact ← getContact p dialog.mContactId
  if isMessageActionAllowed dialog.mStatus .abort then do
    let dialog := dialog.makeNextSequental
    sendAndForget env
      (makeAbort env.getTimestamp dialog.mDialogId contact.adress dialog.mThisSequental)
      contact.channelMoniker
    let dialog ← setStatus p dialog .aborted
    save p dialog
  else pure ()

/-- `closeDialog` (`dialogactionhandler.cpp:130-143`). -/
def closeDialog (dialogId : Str) : M w Unit := do
  let dialog ← wrapper p dialogId
  if dialog.mStatus = .active then do
    let contact ← getContact p dialog.mContactId
    sendRequest p env dialogId .closeDialog (.forCloseDialogRequest dialogId contact) []
  else abortDialog p env dialogId

/-- `removeDialog` (`dialogactionhandler.cpp:98-102`). -/
def removeDialog (dialogId : Str) : M w Unit := do
  closeDialog p env dialogId
  let dialog ← wrapper p dialogId
  Eff.update (·.removeDialog dialog.mDialogId)

/-- `createDialog` (`dialogactionhandler.cpp:104-113`). -/
def createDialog (contact : Contact) : M w Unit := do
  let dialog : Dialog w := .ofContact env.initSequental env.makeUiid contact.id
  addDialog p dialog
  let stored ← wrapper p dialog.mDialogId
  sendRequest p env dialog.mDialogId .createDialog
    (.forCreateDialogRequest stored.mDialogId contact) []

/-- The contacts with an address on a channel (`dialogactionhandler.cpp:178-182`). -/
def contactsAt (contacts : Table Contact) (address channel : Str) : List Contact :=
  (contacts.toList.map Prod.snd).filter fun el =>
    el.adress = address ∧ el.channelMoniker = channel

/-- The answer to a request for a new dialog by a known contact
(`dialogactionhandler.cpp:191-218`). The wrapper whose counter `make_message` advanced is not
saved. -/
def answerCreateDialog (message : DialogMessage w) (contact : Contact) : M w Unit := do
  let dialog : Dialog w := .ofPeer env.initSequental contact.id message.mDialogId
    message.mSequentialNumber .createRequest
  addDialog p dialog
  let stored ← wrapper p message.mDialogId
  let content ← generateAndExportKey p env message.mDialogId contact.adress
  let (msg, stored) ← makeMessage p env .verifyKey stored contact content
  sendMessage env msg contact.channelMoniker
    (.forWaitVerificationDialogRequest stored.mDialogId contact)

/-- `prepareNotFoundDialog` (`dialogactionhandler.cpp:170-234`). -/
def prepareNotFoundDialog (message : DialogMessage w) (channel : Str) : M w Unit := do
  if message.mAction = .abort then pure ()
  else if message.mAction = .createDialog then do
    let contacts ← Eff.reads fun s => contactsAt s.mContactStorage message.mAdress channel
    match contacts with
    | contact :: _ => answerCreateDialog p env message contact
    | [] => do
      notify .error
        (p.text ("Address '\x7b\x7d' sent a request for dialog creation, but " ++
          "contact with that address not found") [message.mAdress])
      sendAndForget env (strayAbort env message) channel
  else sendAndForget env (strayAbort env message) channel

/-- `prepareForFoundDialog` for VERIFY_KEY (`dialogactionhandler.cpp:238-247`). -/
def prepareVerifyKey (message : DialogMessage w) : M w Unit := do
  let dialog ← wrapper p message.mDialogId
  let contact ← getContact p dialog.mContactId
  let res ← importKey p message.mDialogId message.mContent
  sendRequest p env message.mDialogId .keyVerification
    (.forCreateDialogRequest dialog.mDialogId contact) res

/-- `prepareForFoundDialog` for KEY_VERIFICATION (`dialogactionhandler.cpp:248-267`). -/
def prepareKeyVerification (message : DialogMessage w) : M w Unit := do
  let verified ← Eff.readsOr fun s =>
    checkVerificationString p s.mCiphers message.mDialogId message.mContent
  if verified then do
    let dialog ← wrapper p message.mDialogId
    let contact ← getContact p dialog.mContactId
    sendRequest p env message.mDialogId .acceptDialog
      (.forActiveDialogRequest dialog.mDialogId contact) []
  else do
    abortDialog p env message.mDialogId
    notify .info
      (p.text "Failed to verify seance key for contact \x7b\x7d. Dialog aborted"
        [message.mAdress])

/-- `prepareForFoundDialog` for the other actions (`dialogactionhandler.cpp:269-276`). -/
def prepareStatusChange (message : DialogMessage w) : M w Unit := do
  let dialog ← wrapper p message.mDialogId
  let contact ← getContact p dialog.mContactId
  match map p message.mAction with
  | none => Eff.terminate
  | some status => do
    let dialog ← setStatus p dialog status
    save p dialog
    notify .info (dialogToString p dialog contact)

/-- `prepareForFoundDialog` (`dialogactionhandler.cpp:236-277`). -/
def prepareForFoundDialog (message : DialogMessage w) : M w Unit :=
  if message.mAction = .verifyKey then prepareVerifyKey p env message
  else if message.mAction = .keyVerification then prepareKeyVerification p env message
  else prepareStatusChange p message

/-- `prepareHandleException` (`dialogactionhandler.cpp:301-330`); the exceptions of its own body
are only logged. -/
def prepareHandleException (message : DialogMessage w) (channel : Str) : M w Unit :=
  Eff.catching
    (do
      let dialogs ← Eff.reads (·.mDialogStorage)
      if dialogs.has message.mDialogId then abortDialog p env message.mDialogId
      else sendAndForget env (strayAbort env message) channel)
    fun _ => pure ()

/-- `handle` (`dialogactionhandler.cpp:65-88`). -/
def handle (message : DialogMessage w) (channel : Str) : M w Unit :=
  Eff.catching
    (do
      let dialogs ← Eff.reads (·.mDialogStorage)
      if dialogs.has message.mDialogId then do
        let dialog ← wrapper p message.mDialogId
        match dialog.isSequentalOk message.mSequentialNumber with
        | none => pure ()
        | some dialog => do
          save p dialog
          Eff.update (·.record (.controlTaken message.mDialogId message.mSequentialNumber))
          prepareForFoundDialog p env message
      else prepareNotFoundDialog p env message channel)
    fun _ => prepareHandleException p env message channel

end DialogActionHandler

end

end SecureDialogues
