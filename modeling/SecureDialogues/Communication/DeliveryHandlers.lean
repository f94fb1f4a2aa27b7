import SecureDialogues.Communication.MessageDespatcher

/-!
# Delivery callbacks

`messages/src/delivery-handlers/dialogactiondeliveryhandler.cpp`, the handler of sent texts in
`messageactionhandler.cpp`, and the two places of the repository of pending deliveries that run
them.
-/

namespace SecureDialogues

open Text Effect

namespace DeliveryHandler

/-- `make_delivery_handler_for_create_dialog_request`
(`dialogactiondeliveryhandler.cpp:87-97`). -/
def forCreateDialogRequest (dialogId : Str) (contact : Contact) : DeliveryHandler :=
  .dialogAction dialogId .waitConfirm false contact.adress contact.channelMoniker

/-- `make_delivery_handler_for_wait_verification_dialog_request`
(`dialogactiondeliveryhandler.cpp:99-110`). -/
def forWaitVerificationDialogRequest (dialogId : Str) (contact : Contact) : DeliveryHandler :=
  .dialogAction dialogId .waitKeyVerificaion true contact.adress contact.channelMoniker

/-- `make_delivery_handler_for_close_dialog_request`
(`dialogactiondeliveryhandler.cpp:112-121`). -/
def forCloseDialogRequest (dialogId : Str) (contact : Contact) : DeliveryHandler :=
  .dialogAction dialogId .closed false contact.adress contact.channelMoniker

/-- `make_delivery_handler_for_active_dialog_request`
(`dialogactiondeliveryhandler.cpp:123-133`). -/
def forActiveDialogRequest (dialogId : Str) (contact : Contact) : DeliveryHandler :=
  .dialogAction dialogId .active true contact.adress contact.channelMoniker

end DeliveryHandler

section

variable {w : Nat} (p : Platform w) (env : Env w)

/-- `DialogActionDeliveryHandler::removed` (`dialogactiondeliveryhandler.cpp:54-58`) and
`MessageNotDeliveriedHandler::removed` (`messageactionhandler.cpp:37-40`). -/
def removed : DeliveryHandler → M w Unit
  | .dialogAction dialogId mNext _ _ _ => do
    let dialog ← wrapper p dialogId
    let dialog ← setStatus p dialog mNext
    save p dialog
  | .messageNotDeliveried dialogId number =>
    Eff.update fun s => { s with
      mMessageContainer := s.mMessageContainer.updateMessage dialogId number .deliveried }

/-- `DialogActionDeliveryHandler::timeouted` (`dialogactiondeliveryhandler.cpp:60-85`) and
`MessageNotDeliveriedHandler::timeouted` (`messageactionhandler.cpp:42-45`). -/
def timeouted : DeliveryHandler → M w Unit
  | .dialogAction dialogId _ mAbortNeed mAddress mChannel => do
    let dialog ← wrapper p dialogId
    let dialog ←
      if mAbortNeed then do
        let dialog := dialog.makeNextSequental
        sendAndForget env
          (makeAbort env.getTimestamp dialog.mDialogId mAddress dialog.mThisSequental) mChannel
        pure dialog
      else pure dialog
    notify .error
      (p.text "Dialog with \x7b\x7d was removed because participant didn't respond" [mAddress])
    let dialog ← setStatus p dialog .aborted
    save p dialog
  | .messageNotDeliveried dialogId number =>
    Eff.update fun s => { s with
      mMessageContainer := s.mMessageContainer.updateMessage dialogId number .notDeliveried }

/-- `TimeoutedRrepository::remove` (`timeoutedrepository.h:110-122`): the entry goes once its
callback has returned. The result tells whether there was an entry. -/
def removeEntry (k : NumberedKey w) : M w Bool := do
  let mValues ← Eff.reads (·.mRepo)
  match mValues[k]? with
  | none => pure false
  | some stored => do
    removed p stored.element
    Eff.update fun s => { s with mRepo := s.mRepo.erase k }
    pure true

/-- The part of `TimeoutedRrepository::checkInThread` (`timeoutedrepository.h:124-142`) for one
key: the callback of an overdue entry and its removal. An exception that leaves the thread
terminates the program. -/
def expireEntry (k : NumberedKey w) : M w Unit := Eff.noexcept do
  let mValues ← Eff.reads (·.mRepo)
  match mValues.overdue env.systemClock k with
  | none => pure ()
  | some element => do
    timeouted p env element
    Eff.update fun s => { s with mRepo := s.mRepo.erase k }

end

end SecureDialogues
