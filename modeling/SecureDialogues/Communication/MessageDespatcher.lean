import SecureDialogues.Crypto.CryptoSystem

/-!
# Sending

The sending half of `messages/src/communication/messagedespatcher.cpp`, with
`communication_helpers.cpp`.
-/

namespace SecureDialogues

open Text Effect

section

variable {w : Nat} (p : Platform w) (env : Env w)

/-- `Channel::sendMessage` (`channel.cpp:101-115`): the adapter transmits the text or throws. -/
def channelSendMessage (channelName : Str) (message : DialogMessage w) : M w Unit := do
  let outcome ← Eff.reads fun s => env.send s.log channelName message
  match outcome with
  | .ok () => Eff.update (·.record (.handed channelName message true))
  | .error e => do
    Eff.update (·.record (.handed channelName message false))
    Eff.raise e

/-- `MessageDespatcher::sendMessage` (`messagedespatcher.cpp:64-83`). -/
def sendMessage (message : DialogMessage w) (channelName : Str)
    (deliveryHandler : DeliveryHandler) : M w Unit := do
  let channels ← Eff.reads (·.mChannels)
  match channels[channelName]? with
  | none => pure ()
  | some waitAckInterval => do
    let sign ← createSignature env message
    let message := message.setSignature sign
    Eff.update fun s => { s with
      mRepo := s.mRepo.store env.systemClock deliveryHandler
        (message.mDialogId, message.mSequentialNumber) waitAckInterval }
    channelSendMessage env channelName message

/-- `MessageDespatcher::sendAndForget` (`messagedespatcher.cpp:85-92`). -/
def sendAndForget (message : DialogMessage w) (channelName : Str) : M w Unit := do
  let sign ← createSignature env message
  let message := message.setSignature sign
  let channels ← Eff.reads (·.mChannels)
  if channelName ∈ channels then channelSendMessage env channelName message
  else pure ()

/-- `MessageDespatcher::sendAck` (`messagedespatcher.cpp:131-137`). -/
def sendAck (message : DialogMessage w) (channel : Str) : M w Unit := do
  let channels ← Eff.reads (·.mChannels)
  if message.mAction ≠ .abort ∧ 0 < message.mSequentialNumber ∧ channel ∈ channels then
    sendAndForget env (makeAck env.getTimestamp message) channel
  else pure ()

/-- The message of `make_message` (`communication_helpers.cpp:13-27`): its number is the counter
that `makeNextSequental` gives. -/
def requestMessage (action : Action) (dialog : Dialog w) (contact : Contact) (content : Str) :
    DialogMessage w :=
  .make env.getTimestamp action content dialog.mDialogId contact.adress
    dialog.makeNextSequental.mThisSequental []

/-- `make_message`: the message and the wrapped dialog with its counter advanced. -/
def makeMessage (action : Action) (dialog : Dialog w) (contact : Contact) (content : Str) :
    M w (DialogMessage w × Dialog w) :=
  if isMessageActionAllowed dialog.mStatus action then
    pure (requestMessage env action dialog contact content, dialog.makeNextSequental)
  else Eff.raise {
    kind := .invalidDialogAction
    what := p.text "Message with action \x7b\x7d cant be made for dialog state \x7b\x7d"
      [printNat action.toNat, printNat dialog.mStatus.toNat] }

/-- `make_text_message` (`communication_helpers.cpp:6-11`). -/
def makeTextMessage (dialog : Dialog w) (contact : Contact) (content : Str) :
    M w (DialogMessage w × Dialog w) :=
  makeMessage p env .message dialog contact content

/-- The ABORT for a dialog that is not stored, with the maximal number
(`dialogactionhandler.cpp:221-225`). -/
def strayAbort (message : DialogMessage w) : DialogMessage w :=
  makeAbort env.getTimestamp message.mDialogId message.mAdress (maxSequential w)

end

end SecureDialogues
