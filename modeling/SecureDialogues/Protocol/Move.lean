import SecureDialogues.Crypto.CryptoProps
import SecureDialogues.Protocol.History

/-!
# The moves of the protocol

Everything that one step of an instance can do to the protocol's view. A step is a sequence of
moves; each move says what it changes and what the code has checked when it makes it. The state
`start`, in which the step began, and its `input` are parameters: the guards of a move refer to
them where later moves must not have interfered.
-/

namespace SecureDialogues

open Text Effect

section

variable {w : Nat} (p : Platform w) (env : Env w) (start : Core w) (input : Input w)

/-- A control message was handed to a channel and not transmitted. -/
def Event.isFailure : Event w → Bool
  | .handed _ message false => DialogActionHandler.isItYouAction message.mAction
  | _ => false

/-- Since `start` the transmission of a control message has failed. -/
def SendFails (log : List (Event w)) : Prop :=
  ∃ event ∈ log.drop start.log.length, event.isFailure = true

instance (log : List (Event w)) : Decidable (SendFails start log) :=
  inferInstanceAs (Decidable (∃ event ∈ log.drop start.log.length, _))

/-- `sendAck` returns: no ACK is due, the channel is not connected, or the ACK is signed and
transmitted. -/
def Acknowledges (message : DialogMessage w) (channel : Str) : Prop :=
  message.mAction = .abort ∨ ¬ 0 < message.mSequentialNumber ∨ channel ∉ start.mChannels ∨
    ∃ sign, env.createSign start.log (marshall (makeAck env.getTimestamp message)) = .ok sign ∧
      env.send start.log channel ((makeAck env.getTimestamp message).setSignature sign) = .ok ()

/-- The despatcher passes the message on to the handlers. -/
structure Delivered (message : DialogMessage w) (channel : Str) : Prop where
  acknowledges : Acknowledges env start message channel
  signatureOk : isSignatureOk p start.mRemote message = .ok true
  recent : ¬ isExpired env message

/-- The message is for a stored dialog and newer than what was stored of that dialog. -/
def IsFresh (message : DialogMessage w) : Prop :=
  ∃ dialog, start.mDialogStorage.find message.mDialogId = some dialog ∧
    dialog.mPeerSequental < message.mSequentialNumber

/-- So far the step has made notes only. -/
structure Untouched (v : View w) : Prop where
  dialogs : v.dialogs = start.view.dialogs
  ciphers : v.ciphers = start.view.ciphers
  pending : v.pending = start.view.pending
  log : ∃ notes, v.log = start.log ++ notes ∧ ∀ event ∈ notes, event.isNote = true

/-- So far the step has sent nothing for the dialog: its status and its own counter are those it
was stored with, or it was added by this step. -/
structure Unsent (v : View w) (dialog : Dialog w) : Prop where
  pending : v.pending = start.view.pending
  counter : (∃ before, start.mDialogStorage.find dialog.mDialogId = some before ∧
      before.mThisSequental = dialog.mThisSequental ∧ before.mStatus = dialog.mStatus) ∨
    handedNumbers dialog.mDialogId v.log = []

/-- The message can be signed, whatever the step has noted before and whatever it carries. -/
def SignsRequest (message : Str → DialogMessage w) : Prop :=
  ∀ events content, ∃ sign,
    env.createSign (start.log ++ events) (marshall (message content)) = .ok sign

/-- A VERIFY_KEY that is answered with a KEY_VERIFICATION, if that is transmitted. -/
structure IsAnswered (message : DialogMessage w) : Prop where
  dialog : ∃ dialog, start.mDialogStorage.find message.mDialogId = some dialog ∧
    dialog.mStatus = .waitConfirm ∧ ∃ contact,
      start.mContactStorage[dialog.mContactId]? = some contact ∧
        SignsRequest env start fun content => requestMessage env .keyVerification
          { dialog with mPeerSequental := message.mSequentialNumber } contact content
  imports : ImportsKey p start message

/-- The contact of the dialog is stored and its channel is connected. -/
def Connected (dialog : Dialog w) : Prop :=
  ∃ contact, start.mContactStorage[dialog.mContactId]? = some contact ∧
    contact.channelMoniker ∈ start.mChannels

/-- A VERIFY_KEY would be sent in answer to the message. -/
structure IsAnsweredWithKey (message : DialogMessage w) (channel : Str) : Prop where
  action : message.mAction = .createDialog
  delivered : Delivered p env start message channel
  unknown : start.mDialogStorage.find message.mDialogId = none
  exported : ∃ contact rest, DialogActionHandler.contactsAt start.mContactStorage message.mAdress
    channel = contact :: rest ∧ contact.channelMoniker ∈ start.mChannels ∧
      ExportsKey p env start contact.adress

/-- In answer to a control message, the transmission of a request has failed whose delivery is
pending already. -/
inductive SentInVain (v : View w) : Prop
  | answer {message : DialogMessage w} {channel : Str} (cause : input = .dispatch message channel)
    (action : message.mAction = .verifyKey ∨ message.mAction = .keyVerification)
    (delivered : Delivered p env start message channel) (fresh : IsFresh start message)
    (fails : SendFails start v.log)
  | create {message : DialogMessage w} {channel : Str} (cause : input = .dispatch message channel)
    (answered : IsAnsweredWithKey p env start message channel) (fails : SendFails start v.log)

variable {p env start input} in
theorem SentInVain.sendFails {v : View w} (sent : SentInVain p env start input v) :
    SendFails start v.log := by
  cases sent with
  | answer _ _ _ _ fails => exact fails
  | create _ _ fails => exact fails

/-- The requests with a delivery handler: for which dialog an input makes which request, the
status the delivery callback asks for and whether its expiry sends an ABORT. -/
inductive Asks : Input w → Str → Action → Status → Bool → Prop
  | create (contact : Contact) :
    Asks (.createDialog contact) env.makeUiid .createDialog .waitConfirm false
  | close (dialogId : Str) : Asks (.closeDialog dialogId) dialogId .closeDialog .closed false
  | remove (dialogId : Str) : Asks (.removeDialog dialogId) dialogId .closeDialog .closed false
  | keyVerification {message : DialogMessage w} (channel : Str)
    (action : message.mAction = .verifyKey) :
    Asks (.dispatch message channel) message.mDialogId .keyVerification .waitConfirm false
  | accept {message : DialogMessage w} (channel : Str)
    (action : message.mAction = .keyVerification) :
    Asks (.dispatch message channel) message.mDialogId .acceptDialog .active true

/-- What makes the program abort a dialog other than an expired delivery. -/
inductive AbortCause (v : View w) : Str → Prop
  | abort (dialogId : Str) (cause : input = .abortDialog dialogId) : AbortCause v dialogId
  | close (dialogId : Str) (cause : input = .closeDialog dialogId) : AbortCause v dialogId
  | remove (dialogId : Str) (cause : input = .removeDialog dialogId) : AbortCause v dialogId
  /-- A text that cannot be read. -/
  | text {message : DialogMessage w} {channel : Str} (cause : input = .dispatch message channel)
    (action : message.mAction = .message) (delivered : Delivered p env start message channel)
    (fresh : IsFresh start message)
    (unread : ∀ text,
      decryptMessageBody p start.mCiphers message.mDialogId message.mContent ≠ .ok text) :
    AbortCause v message.mDialogId
  /-- A control message that cannot be obeyed. -/
  | control {message : DialogMessage w} {channel : Str}
    (cause : input = .dispatch message channel)
    (control : DialogActionHandler.isItYouAction message.mAction = true)
    (delivered : Delivered p env start message channel)
    (fresh : start.mDialogStorage.has message.mDialogId = true → IsFresh start message)
    (unanswered : message.mAction = .verifyKey →
      ¬ IsAnswered p env start message ∨ SendFails start v.log) :
    AbortCause v message.mDialogId

/-- One move. -/
inductive Move : View w → View w → Prop
  | note {v : View w} {event : Event w} (note : event.isNote = true) : Move v (v.record [event])
  /-- The ABORT for a dialog that is not stored. -/
  | strayAbort {v : View w} {message : DialogMessage w} (channel : Str) (sent : Bool)
    (unknown : v.dialogs message.mDialogId = none) (abort : message.mAction = .abort) :
    Move v (v.record [.handed channel message sent])
  /-- `DialogActionHandler::handle` accepts a control message of a stored dialog. -/
  | takeControl {v : View w} {message : DialogMessage w} {channel : Str} {dialog : Dialog w}
    (cause : input = .dispatch message channel)
    (control : DialogActionHandler.isItYouAction message.mAction = true)
    (delivered : Delivered p env start message channel) (untouched : Untouched start v)
    (stored : v.dialogs message.mDialogId = some dialog)
    (fresh : dialog.mPeerSequental < message.mSequentialNumber) :
    Move v ((v.setDialog { dialog with mPeerSequental := message.mSequentialNumber }).record
      [.controlTaken message.mDialogId message.mSequentialNumber])
  /-- `MessageActionHandler::handle` accepts a text of a stored dialog. -/
  | addText {v : View w} {message : DialogMessage w} {channel : Str} {dialog : Dialog w}
    {text : Str} (cause : input = .dispatch message channel)
    (action : message.mAction = .message) (delivered : Delivered p env start message channel)
    (untouched : Untouched start v) (stored : v.dialogs message.mDialogId = some dialog)
    (fresh : dialog.mPeerSequental < message.mSequentialNumber)
    (read : decryptMessageBody p start.mCiphers message.mDialogId message.mContent = .ok text) :
    Move v (v.record [.textAdded message.mDialogId message.mSequentialNumber text])
  /-- `createDialog` adds a dialog. -/
  | create {v : View w} {contact : Contact} {dialog : Dialog w}
    (cause : input = .createDialog contact) (untouched : Untouched start v)
    (unknown : v.dialogs dialog.mDialogId = none)
    (shape : dialog = .ofContact env.initSequental env.makeUiid contact.id) :
    Move v ((v.setDialog dialog).record [.dialogAdded dialog.mDialogId])
  /-- `prepareNotFoundDialog` adds a dialog for the request of a contact. -/
  | createByPeer {v : View w} {message : DialogMessage w} {channel : Str} {contact : Contact}
    {rest : List Contact} {dialog : Dialog w} (cause : input = .dispatch message channel)
    (action : message.mAction = .createDialog) (delivered : Delivered p env start message channel)
    (untouched : Untouched start v) (unknown : v.dialogs message.mDialogId = none)
    (known : DialogActionHandler.contactsAt start.mContactStorage message.mAdress channel =
      contact :: rest)
    (shape : dialog = .ofPeer env.initSequental contact.id message.mDialogId
      message.mSequentialNumber .createRequest) :
    Move v ((v.setDialog dialog).record [.dialogAdded dialog.mDialogId])
  | install {v : View w} {dialogId : Str} (element : DialogElement)
    (absent : v.ciphers dialogId = none) :
    Move v ((v.install dialogId element).record [.keyInstalled dialogId])
  /-- `sendRequest` reaches the channel and saves the counter. -/
  | request {v : View w} {dialog : Dialog w} {action : Action} {mNext : Status}
    {mAbortNeed : Bool} {mAddress mChannel channel : Str} {message : DialogMessage w}
    (asks : Asks env input dialog.mDialogId action mNext mAbortNeed)
    (unsent : Unsent start v dialog) (stored : v.dialogs dialog.mDialogId = some dialog)
    (allowed : isMessageActionAllowed dialog.mStatus action = true)
    (connected : Connected start dialog) (dialogId : message.mDialogId = dialog.mDialogId)
    (number : message.mSequentialNumber = dialog.mThisSequental + 1)
    (requested : message.mAction = action) :
    Move v (((v.store (dialog.mDialogId, dialog.mThisSequental + 1)
      (.dialogAction dialog.mDialogId mNext mAbortNeed mAddress mChannel)).record
        [.handed channel message true]).setDialog dialog.makeNextSequental)
  /-- The transmission of a request throws: the counter is not saved. -/
  | requestFailed {v : View w} {dialog : Dialog w} {action : Action} {mNext : Status}
    {mAbortNeed : Bool} {mAddress mChannel channel : Str} {message : DialogMessage w}
    (asks : Asks env input dialog.mDialogId action mNext mAbortNeed)
    (unsent : Unsent start v dialog) (stored : v.dialogs dialog.mDialogId = some dialog)
    (allowed : isMessageActionAllowed dialog.mStatus action = true)
    (connected : Connected start dialog) (requested : message.mAction = action) :
    Move v ((v.store (dialog.mDialogId, dialog.mThisSequental + 1)
      (.dialogAction dialog.mDialogId mNext mAbortNeed mAddress mChannel)).record
        [.handed channel message false])
  /-- The VERIFY_KEY for a dialog that the peer asked for: the counter is not saved. -/
  | verifyKey {v : View w} {dialog : Dialog w} {message answer : DialogMessage w}
    {channel mAddress mChannel moniker : Str} (cause : input = .dispatch message channel)
    (answered : IsAnsweredWithKey p env start message channel)
    (dialogId : message.mDialogId = dialog.mDialogId) (unsent : Unsent start v dialog)
    (stored : v.dialogs dialog.mDialogId = some dialog)
    (status : dialog.mStatus = .createRequest) (sent : Bool)
    (answers : answer.mAction = .verifyKey) :
    Move v ((v.store (dialog.mDialogId, dialog.mThisSequental + 1)
      (.dialogAction dialog.mDialogId .waitKeyVerificaion true mAddress mChannel)).record
        [.handed moniker answer sent])
  /-- The counter advances and nothing is handed to a channel. -/
  | skip {v : View w} {dialog : Dialog w} (unsent : Unsent start v dialog)
    (stored : v.dialogs dialog.mDialogId = some dialog) :
    Move v (v.setDialog dialog.makeNextSequental)
  /-- A text is sent; the counter was saved first. -/
  | sendText {v : View w} {dialog : Dialog w} {text moniker : Str} {number : Nat}
    {message : DialogMessage w} (cause : input = .sendMessage text)
    (unsent : Unsent start v dialog) (stored : v.dialogs dialog.mDialogId = some dialog)
    (status : dialog.mStatus = .active) (dialogId : message.mDialogId = dialog.mDialogId)
    (seq : message.mSequentialNumber = dialog.mThisSequental + 1) (owner : Str) (sent : Bool)
    (action : message.mAction = .message) :
    Move v (((v.setDialog dialog.makeNextSequental).store
      (dialog.mDialogId, dialog.mThisSequental + 1) (.messageNotDeliveried owner number)).record
        [.handed moniker message sent])
  /-- The dialog is aborted, with an ABORT if its channel is connected. -/
  | abort {v : View w} {dialog : Dialog w} {events : List (Event w)}
    (cause : AbortCause p env start input v dialog.mDialogId)
    (unsent : Unsent start v dialog ∨ SentInVain p env start input v)
    (stored : v.dialogs dialog.mDialogId = some dialog) (open' : dialog.mStatus.isEnded = false)
    (handed : ∀ event ∈ events, ∃ channel message, event = .handed channel message true ∧
      message.mAction = .abort ∧ message.mDialogId = dialog.mDialogId ∧
      message.mSequentialNumber = dialog.mThisSequental + 1) (once : events.length ≤ 1) :
    Move v ((v.record events).setDialog (dialog.makeNextSequental.withStatus .aborted))
  /-- The transmission of an ABORT throws: the dialog stays as it is. -/
  | abortFailed {v : View w} {channel : Str} {message : DialogMessage w}
    (abort : message.mAction = .abort) :
    Move v (v.record [.handed channel message false])
  /-- The peer's ACCEPT_DIALOG, CLOSE_DIALOG or ABORT changes the status. -/
  | peerStatus {v : View w} {message : DialogMessage w} {channel : Str}
    {before dialog : Dialog w} {status : Status} (cause : input = .dispatch message channel)
    (control : DialogActionHandler.isItYouAction message.mAction = true)
    (delivered : Delivered p env start message channel)
    (other : message.mAction ≠ .verifyKey ∧ message.mAction ≠ .keyVerification)
    (mapped : DialogActionHandler.map p message.mAction = some status)
    (dialogId : message.mDialogId = dialog.mDialogId)
    (found : start.mDialogStorage.find dialog.mDialogId = some before)
    (fresh : before.mPeerSequental < message.mSequentialNumber)
    (sameStatus : before.mStatus = dialog.mStatus) (ciphers : v.ciphers = start.view.ciphers)
    (contact : ∃ contact, start.mContactStorage[before.mContactId]? = some contact)
    (unsent : Unsent start v dialog) (stored : v.dialogs dialog.mDialogId = some dialog)
    (allowed : isStateTransitionAllowed dialog.mStatus status = true) :
    Move v (v.setDialog (dialog.withStatus status))
  /-- The ACK of a control message: the callback `removed` and the removal of the entry. -/
  | removed {v : View w} {message : DialogMessage w} {channel mAddress mChannel : Str}
    {dialog : Dialog w} {mNext : Status} {mAbortNeed : Bool}
    (cause : input = .dispatch message channel) (action : message.mAction = .ack)
    (first : v = start.view)
    (waiting : v.pending (message.mDialogId, message.mSequentialNumber) =
      some (.dialogAction dialog.mDialogId mNext mAbortNeed mAddress mChannel))
    (stored : v.dialogs dialog.mDialogId = some dialog)
    (allowed : isStateTransitionAllowed dialog.mStatus mNext = true) :
    Move v ((v.setDialog (dialog.withStatus mNext)).drop
      (message.mDialogId, message.mSequentialNumber))
  /-- The delivery of a text ends, in one way or the other. -/
  | endText {v : View w} {k : NumberedKey w} {owner : Str} {number : Nat}
    (waiting : v.pending k = some (.messageNotDeliveried owner number)) : Move v (v.drop k)
  /-- The expiry of a control message: the callback `timeouted` and the removal of the entry. -/
  | timeouted {v : View w} {k : NumberedKey w} {mAddress mChannel : Str} {dialog : Dialog w}
    {mNext : Status} {mAbortNeed : Bool} {events : List (Event w)} (cause : input = .expire k)
    (first : v = start.view)
    (waiting : v.pending k =
      some (.dialogAction dialog.mDialogId mNext mAbortNeed mAddress mChannel))
    (late : start.mRepo.overdue env.systemClock k =
      some (.dialogAction dialog.mDialogId mNext mAbortNeed mAddress mChannel))
    (stored : v.dialogs dialog.mDialogId = some dialog) (open' : dialog.mStatus.isEnded = false)
    (handed : ∀ event ∈ events, event.isNote = true ∨ mAbortNeed = true ∧
      ∃ channel message, event = .handed channel message true ∧ message.mAction = .abort) :
    Move v (((v.record events).setDialog
      ((if mAbortNeed then dialog.makeNextSequental else dialog).withStatus .aborted)).drop k)
  /-- The callback `timeouted` throws. -/
  | timeoutFailed {v : View w} {k : NumberedKey w} {dialogId mAddress mChannel : Str}
    {mNext : Status} {mAbortNeed : Bool} {events : List (Event w)} (cause : input = .expire k)
    (first : v = start.view)
    (waiting : v.pending k = some (.dialogAction dialogId mNext mAbortNeed mAddress mChannel))
    (handed : ∀ event ∈ events, event.isNote = true ∨ mAbortNeed = true ∧
      ∃ channel message sent, event = .handed channel message sent ∧ message.mAction = .abort) :
    Move v (v.record events)
  | remove {v : View w} {dialogId : Str} {dialog : Dialog w}
    (cause : input = .removeDialog dialogId) (stored : v.dialogs dialogId = some dialog)
    (quiet : v.pending = start.view.pending ∨ ∃ before,
      start.mDialogStorage.find dialogId = some before ∧ before.mStatus = .active ∧
        Connected start before) :
    Move v ((v.forget dialogId).record [.dialogRemoved dialogId])

/-- The moves of a step, related through the views of the states. -/
def Moves (s s' : Core w) : Prop :=
  Relation.ReflTransGen (Move p env start input) s.view s'.view

instance : Std.Refl (Moves p env start input) := ⟨fun _ => .refl⟩

instance : IsTrans (Core w) (Moves p env start input) := ⟨fun _ _ _ => .trans⟩

variable {p env start input}

theorem Untouched.isFresh {v : View w} (untouched : Untouched start v) {message : DialogMessage w}
    {dialog : Dialog w} (stored : v.dialogs message.mDialogId = some dialog)
    (fresh : dialog.mPeerSequental < message.mSequentialNumber) : IsFresh start message := by
  rw [untouched.dialogs] at stored
  exact ⟨dialog, stored, fresh⟩

/-! ## The log -/

theorem Move.log {v v' : View w} (move : Move p env start input v v') :
    ∃ events, v'.log = v.log ++ events := by
  cases move with
  | skip | peerStatus | removed | endText => exact ⟨[], (List.append_nil _).symm⟩
  | _ => exact ⟨_, rfl⟩

/-- The log grows from one view to a later one. -/
theorem log_of_moves {v v' : View w} (moves : Relation.ReflTransGen (Move p env start input) v v') :
    ∃ events, v'.log = v.log ++ events := by
  induction moves with
  | refl => exact ⟨[], (List.append_nil _).symm⟩
  | tail _ move ih =>
    obtain ⟨events, first⟩ := ih
    obtain ⟨later, rest⟩ := move.log
    exact ⟨events ++ later, by rw [rest, first, List.append_assoc]⟩

theorem Moves.log {s s' : Core w} (moves : Moves p env start input s s') :
    ∃ events, s'.log = s.log ++ events :=
  log_of_moves moves

theorem Moves.length_le {s s' : Core w} (moves : Moves p env start input s s') :
    s.log.length ≤ s'.log.length := by
  obtain ⟨events, log⟩ := moves.log
  simp [log]

theorem SendFails.append {log : List (Event w)} (fails : SendFails start log)
    (events : List (Event w)) : SendFails start (log ++ events) := by
  obtain ⟨event, member, failure⟩ := fails
  refine ⟨event, ?_, failure⟩
  rw [List.drop_append]
  exact List.mem_append_left _ member

/-- A control message that was not transmitted. -/
theorem sendFails {log : List (Event w)} (grown : start.log.length ≤ log.length) (channel : Str)
    {message : DialogMessage w}
    (control : DialogActionHandler.isItYouAction message.mAction = true) :
    SendFails start (log ++ [.handed channel message false]) := by
  refine ⟨.handed channel message false, ?_, control⟩
  rw [List.drop_append_of_le_length grown]
  exact List.mem_append_right _ (List.mem_singleton_self _)

end

end SecureDialogues
