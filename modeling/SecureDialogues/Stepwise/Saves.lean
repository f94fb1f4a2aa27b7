import SecureDialogues.Stepwise.MessageLog
import SecureDialogues.Stepwise.OutgoingActions

/-!
# What the operations save

Which dialogs an operation writes back and under which identifiers it makes new entries, judged by
the dialogs that it finds in the storage: an operation that runs without interruption knows them
all. Only `DialogActionHandler::handle` writes back a dialog that has ended.
-/

namespace SecureDialogues

open Text Effect

/-- What is asked of an operation. -/
structure Demands where
  /-- The identifiers for new dialogs and messages. -/
  named : Str → Prop
  /-- Dialogs that have ended may be saved. -/
  ended : Prop
  /-- Texts of the peer may be shown. -/
  incoming : Prop

/-- The stored dialogs and the active one. -/
abbrev Mirror (w : Nat) := DialogStorage w × Str

section

variable {w : Nat}

/-- The operation saves dialogs that are stored, and gives identifiers that are permitted. -/
def recording (demands : Demands) : Prog.Discipline (Atom w) Atom.Result Exn (Mirror w) where
  guard mirror
    | .saveDialog dialog => ∃ old, mirror.1.find dialog.mDialogId = some old ∧
        (demands.ended ∨ old.mStatus.isEnded = false)
    | .addDialog dialog => demands.named dialog.mDialogId
    | .addMessage dialogId message => demands.named dialogId ∧ message.IsOrdinary ∧
        (message.mType = .incoming → demands.incoming)
    | _ => True
  possible mirror
    | .wrapper dialogId, .ok dialog => mirror.1.find dialogId = some dialog
    | .hasDialog dialogId, .ok stored => mirror.1.has dialogId = stored
    | .activeDialog, .ok dialogId => mirror.2 = dialogId
    | _, _ => True
  note mirror
    | .addDialog dialog, .ok () => (mirror.1.put dialog, mirror.2)
    | .saveDialog dialog, _ => (mirror.1.put dialog, mirror.2)
    | .removeDialog dialogId, _ => (mirror.1.remove dialogId, mirror.2)
    | .setActiveDialog dialogId, _ => (mirror.1, dialogId)
    | _, _ => mirror

/-- The operation keeps to the demands. -/
abbrev Records (demands : Demands) {α : Type} (mirror : Mirror w) (m : Steps w α) : Prop :=
  Prog.Obeys (recording demands) mirror m fun _ _ => True

/-- The operation keeps to the demands and writes no dialogs. -/
abbrev RecordsNothing (demands : Demands) {α : Type} (mirror : Mirror w) (m : Steps w α) : Prop :=
  Prog.Obeys (recording demands) mirror m fun _ mirror' => mirror' = mirror

variable (p : Platform w) (env : Env w) {demands : Demands} {mirror : Mirror w}

theorem RecordsNothing.records {α : Type} {m : Steps w α}
    (nothing : RecordsNothing demands mirror m) : Records demands mirror m :=
  nothing.mono fun _ _ _ => trivial

/-- The read of a dialog's record. -/
theorem Records.wrapper {dialogId : Str} {α : Type} {f : Dialog w → Steps w α}
    (rest : ∀ dialog, mirror.1.find dialogId = some dialog → dialog.mDialogId = dialogId →
      Records demands mirror (f dialog)) :
    Records demands mirror (Prog.atom (.wrapper dialogId) >>= f) := by
  refine Prog.Obeys.silentStep trivial ?_ ?_ fun _ => trivial
  · intro r
    cases r <;> rfl
  · intro dialog found
    exact rest dialog found (DialogStorage.mDialogId_of_find found)

/-- The question whether a dialog is stored. -/
theorem Records.hasDialog {dialogId : Str} {α : Type} {f : Bool → Steps w α}
    (stored : mirror.1.has dialogId = true → Records demands mirror (f true))
    (absent : mirror.1.has dialogId = false → Records demands mirror (f false)) :
    Records demands mirror (Prog.atom (.hasDialog dialogId) >>= f) := by
  refine Prog.Obeys.silentStep trivial ?_ ?_ fun _ => trivial
  · intro r
    cases r <;> rfl
  · intro answer found
    cases answer with
    | true => exact stored found
    | false => exact absent found

/-- The write of a stored dialog that has not ended. -/
theorem Records.saveDialog {dialog old : Dialog w} {α : Type} {f : Unit → Steps w α}
    (found : mirror.1.find dialog.mDialogId = some old)
    (permitted : demands.ended ∨ old.mStatus.isEnded = false)
    (rest : Records demands (mirror.1.put dialog, mirror.2) (f ())) :
    Records demands mirror (Prog.atom (.saveDialog dialog) >>= f) := by
  apply Prog.Obeys.step
  · exact ⟨old, found, permitted⟩
  · intro _ _
    exact rest
  · intro _ _
    trivial

theorem Records.lastSave {dialog old : Dialog w} (found : mirror.1.find dialog.mDialogId = some old)
    (permitted : demands.ended ∨ old.mStatus.isEnded = false) :
    Records demands mirror (Prog.atom (.saveDialog dialog)) := by
  apply Prog.Obeys.atom
  · exact ⟨old, found, permitted⟩
  · intro _ _
    trivial

/-- The `add` of a dialog to the storage. -/
theorem Records.addDialog {dialog : Dialog w} {α : Type} {f : Unit → Steps w α}
    (named : demands.named dialog.mDialogId)
    (rest : Records demands (mirror.1.put dialog, mirror.2) (f ())) :
    Records demands mirror (Prog.atom (.addDialog dialog) >>= f) := by
  apply Prog.Obeys.step named
  · intro _ _
    exact rest
  · intro _ _
    trivial

/-- A status with a transition that is allowed is not one of the two last ones. -/
theorem isEnded_of_transition {old next : Status}
    (allowed : isStateTransitionAllowed old next = true) : old.isEnded = false := by
  cases old <;> first | rfl | cases allowed

/-- No message is allowed in a status that has ended. -/
theorem isEnded_of_action {status : Status} {action : Action}
    (allowed : isMessageActionAllowed status action = true) : status.isEnded = false := by
  cases status <;> first | rfl | cases allowed

/-- A fresh number comes for a dialog that has not ended, or the save of ended dialogs is
permitted. -/
def Demands.Admits (demands : Demands) (dialogs : DialogStorage w) (message : DialogMessage w) :
    Prop :=
  demands.ended ∨ ∀ dialog, dialogs.find message.mDialogId = some dialog →
    dialog.mPeerSequental < message.mSequentialNumber → dialog.mStatus.isEnded = false

namespace Steps

/-! ## Sending -/

theorem recordsNothing_sendMessage (message : DialogMessage w) (channelName : Str)
    (deliveryHandler : DeliveryHandler) :
    RecordsNothing demands mirror (sendMessage message channelName deliveryHandler) := by
  unfold sendMessage
  refine Prog.Obeys.silentStep trivial (fun _ => rfl) ?_ fun _ => rfl
  intro found _
  cases found with
  | none => rfl
  | some waitAckInterval =>
    refine Prog.Obeys.silentStep trivial (fun _ => rfl) ?_ fun _ => rfl
    intro sign _
    refine Prog.Obeys.silentStep trivial (fun _ => rfl) ?_ fun _ => rfl
    intro _ _
    exact Prog.Obeys.silentAtom trivial fun _ => rfl

theorem recordsNothing_sendAndForget (message : DialogMessage w) (channelName : Str) :
    RecordsNothing demands mirror (sendAndForget message channelName) := by
  unfold sendAndForget
  refine Prog.Obeys.silentStep trivial (fun _ => rfl) ?_ fun _ => rfl
  intro sign _
  refine Prog.Obeys.silentStep trivial (fun _ => rfl) ?_ fun _ => rfl
  intro found _
  cases found with
  | none => rfl
  | some waitAckInterval => exact Prog.Obeys.silentAtom trivial fun _ => rfl

theorem recordsNothing_sendAck (message : DialogMessage w) (channel : Str) :
    RecordsNothing demands mirror (sendAck env message channel) := by
  unfold sendAck
  refine Prog.Obeys.silentStep trivial (fun _ => rfl) ?_ fun _ => rfl
  intro connected _
  split
  · exact recordsNothing_sendAndForget _ channel
  · rfl

/-- `make_message` refuses a dialog that has ended. -/
theorem makeMessage_records {action : Action} {dialog : Dialog w} {contact : Contact}
    {content : Str} {α : Type} {f : DialogMessage w × Dialog w → Steps w α}
    (rest : dialog.mStatus.isEnded = false → Records demands mirror
      (f (requestMessage env action dialog contact content, dialog.makeNextSequental))) :
    Records demands mirror (makeMessage p env action dialog contact content >>= f) := by
  unfold makeMessage
  split
  · rename_i allowed
    exact rest (isEnded_of_action allowed)
  · trivial

/-- `Dialog::setStatus` refuses a dialog that has ended. -/
theorem setStatus_records {dialog : Dialog w} {status : Status} {α : Type}
    {f : Dialog w → Steps w α}
    (rest : dialog.mStatus.isEnded = false →
      Records demands mirror (f (dialog.withStatus status))) :
    Records demands mirror (setStatus p dialog status >>= f) := by
  unfold setStatus
  split
  · rename_i allowed
    exact rest (isEnded_of_transition allowed)
  · trivial

/-- A new status of a stored dialog. -/
theorem records_setStatus_save {dialog old : Dialog w} {status : Status}
    (found : mirror.1.find dialog.mDialogId = some old) (same : dialog.mStatus = old.mStatus) :
    Records demands mirror (do
      let dialog ← setStatus p dialog status
      step (.saveDialog dialog)) := by
  apply setStatus_records
  intro open'
  exact Records.lastSave found (.inr (same ▸ open'))

/-! ## Delivery callbacks -/

theorem records_removed (handler : DeliveryHandler) :
    Records demands mirror (removed p handler) := by
  cases handler with
  | dialogAction dialogId mNext mAbortNeed mAddress mChannel =>
    apply Records.wrapper
    intro dialog found sameId
    exact records_setStatus_save p (sameId ▸ found) rfl
  | messageNotDeliveried dialogId number =>
    exact RecordsNothing.records (Prog.Obeys.silentAtom trivial fun _ => rfl)

theorem records_timeouted (handler : DeliveryHandler) :
    Records demands mirror (timeouted p env handler) := by
  cases handler with
  | dialogAction dialogId mNext mAbortNeed mAddress mChannel =>
    apply Records.wrapper
    intro dialog found sameId
    rw [← sameId] at found
    cases mAbortNeed with
    | true =>
      apply Prog.Obeys.silentBind
      · exact recordsNothing_sendAndForget _ mChannel
      · intro _
        refine Prog.Obeys.silentStep trivial (fun _ => rfl) ?_ fun _ => trivial
        intro _ _
        apply records_setStatus_save p
        · exact found
        · rfl
      · intro _
        trivial
    | false =>
      refine Prog.Obeys.silentStep trivial (fun _ => rfl) ?_ fun _ => trivial
      intro _ _
      exact records_setStatus_save p found rfl
  | messageNotDeliveried dialogId number =>
    exact RecordsNothing.records (Prog.Obeys.silentAtom trivial fun _ => rfl)

theorem records_removeEntry (k : NumberedKey w) : Records demands mirror (removeEntry p k) := by
  refine Prog.Obeys.silentStep trivial (fun _ => rfl) ?_ fun _ => trivial
  intro found _
  cases found with
  | none => trivial
  | some stored =>
    apply Prog.Obeys.andThen
    · exact records_removed p stored.element
    · intro _ mirror'
      refine Prog.Obeys.silentStep trivial (fun _ => rfl) ?_ fun _ => trivial
      intro _ _
      trivial

theorem records_expireEntry (k : NumberedKey w) :
    Records demands mirror (expireEntry p env k) := by
  apply Prog.Obeys.noexcept
  refine Prog.Obeys.silentStep trivial (fun _ => rfl) ?_ fun _ => trivial
  intro found _
  cases found with
  | none => trivial
  | some element =>
    apply Prog.Obeys.andThen
    · exact records_timeouted p env element
    · intro _ mirror'
      exact RecordsNothing.records (Prog.Obeys.silentAtom trivial fun _ => rfl)

/-! ## Texts -/

namespace MessageActionHandler

theorem records_abortStored (message : DialogMessage w) (channel : Str) :
    Records demands mirror (abortStored p env message channel) := by
  apply Records.wrapper
  intro dialog found sameId
  rw [← sameId] at found
  refine Prog.Obeys.silentStep trivial (fun _ => rfl) ?_ fun _ => trivial
  intro contact _
  apply setStatus_records
  intro open'
  apply Prog.Obeys.silentBind
  · exact recordsNothing_sendAndForget _ channel
  · intro _
    exact Records.lastSave found (.inr open')
  · intro _
    trivial

theorem records_abortOnException {message : DialogMessage w}
    (named : demands.named message.mDialogId) (channel : Str) :
    Records demands mirror (abortOnException p env message channel) := by
  apply Prog.Obeys.attempt
  · refine Prog.Obeys.silentStep ⟨named, fun _ => rfl, nofun⟩ (fun _ => rfl) ?_ fun _ => trivial
    intro _ _
    apply Records.hasDialog
    · intro _
      exact records_abortStored p env message channel
    · intro _
      exact (recordsNothing_sendAndForget _ channel).records
  · intro _ _
    trivial

theorem records_acceptText {message : DialogMessage w} (named : demands.named message.mDialogId)
    (incoming : demands.incoming) :
    Records demands mirror (acceptText message) := by
  refine Prog.Obeys.silentStep trivial (fun _ => rfl) ?_ fun _ => trivial
  intro content _
  have ordinary : (MessageContainer.textMessage content true).IsOrdinary := nofun
  refine Prog.Obeys.silentStep ⟨named, ordinary, fun _ => incoming⟩ (fun _ => rfl) ?_ fun _ => trivial
  intro _ _
  exact RecordsNothing.records (Prog.Obeys.silentAtom trivial fun _ => rfl)

theorem records_handle {message : DialogMessage w} (named : demands.named message.mDialogId)
    (incoming : demands.incoming) (channel : Str) :
    Records demands mirror (handle p env message channel) := by
  apply Prog.Obeys.attempt
  · apply Records.hasDialog
    · intro _
      apply Records.wrapper
      intro dialog _ _
      cases dialog.isSequentalOk message.mSequentialNumber with
      | none => trivial
      | some next => exact records_acceptText named incoming
    · intro _
      refine Prog.Obeys.silentStep trivial (fun _ => rfl) ?_ fun _ => trivial
      intro _ _
      exact (recordsNothing_sendAndForget _ channel).records
  · intro _ _
    exact records_abortOnException p env named channel

theorem records_sendText (dialogId message : Str) :
    Records demands mirror (sendText p env dialogId message) := by
  apply Records.wrapper
  intro dialog found sameId
  rw [← sameId] at found
  refine Prog.Obeys.silentStep trivial (fun _ => rfl) ?_ fun _ => trivial
  intro contact _
  apply makeMessage_records
  intro open'
  apply Records.saveDialog
  · exact found
  · exact .inr open'
  refine Prog.Obeys.silentStep trivial (fun _ => rfl) ?_ fun _ => trivial
  intro content _
  refine Prog.Obeys.silentStep trivial (fun _ => rfl) ?_ fun _ => trivial
  intro handler _
  exact (recordsNothing_sendMessage _ _ handler).records

/-- The message about a failure goes to the dialog that was active. -/
theorem records_sendMessage (named : demands.named mirror.2) (message : Str) :
    Records demands mirror (sendMessage p env message) := by
  have sends : Records demands mirror
      ((sendText p env mirror.2 message).catching fun ex =>
        step (.addMessage mirror.2 {
          mStatus := .error
          mType := .system
          mContent := p.text "Failed to send messsage, reason: {}" [ex.what] })) := by
    apply Prog.Obeys.attempt
    · exact records_sendText p env mirror.2 message
    · intro _ _
      exact RecordsNothing.records (Prog.Obeys.silentAtom ⟨named, fun _ => rfl, nofun⟩ fun _ => rfl)
  refine Prog.Obeys.silentStep trivial ?_ ?_ fun _ => trivial
  · intro r
    cases r <;> rfl
  · rintro dialogId rfl
    dsimp only
    split
    · refine Prog.Obeys.silentStep trivial (fun _ => rfl) ?_ fun _ => trivial
      intro _ _
      exact sends
    · exact sends

end MessageActionHandler

/-! ## Control messages and the user's dialog operations -/

namespace DialogActionHandler

theorem records_sendRequest (dialogId : Str) (action : Action) (handler : DeliveryHandler)
    (content : Str) :
    Records demands mirror (sendRequest p env dialogId action handler content) := by
  apply Records.wrapper
  intro dialog found sameId
  rw [← sameId] at found
  refine Prog.Obeys.silentStep trivial (fun _ => rfl) ?_ fun _ => trivial
  intro contact _
  apply makeMessage_records
  intro open'
  apply Prog.Obeys.silentBind
  · exact recordsNothing_sendMessage _ _ handler
  · intro _
    exact Records.lastSave found (.inr open')
  · intro _
    trivial

theorem records_abortDialog (dialogId : Str) :
    Records demands mirror (abortDialog p env dialogId) := by
  apply Records.wrapper
  intro dialog found sameId
  rw [← sameId] at found
  refine Prog.Obeys.silentStep trivial (fun _ => rfl) ?_ fun _ => trivial
  intro contact _
  dsimp only
  split
  · apply Prog.Obeys.silentBind
    · exact recordsNothing_sendAndForget _ _
    · intro _
      apply records_setStatus_save p
      · exact found
      · rfl
    · intro _
      trivial
  · trivial

theorem records_closeDialog (dialogId : Str) :
    Records demands mirror (closeDialog p env dialogId) := by
  apply Records.wrapper
  intro dialog _ _
  split
  · refine Prog.Obeys.silentStep trivial (fun _ => rfl) ?_ fun _ => trivial
    intro contact _
    exact records_sendRequest p env _ _ _ _
  · exact records_abortDialog p env dialogId

theorem records_removeDialog (dialogId : Str) :
    Records demands mirror (removeDialog p env dialogId) := by
  apply Prog.Obeys.andThen
  · exact records_closeDialog p env dialogId
  · intro _ mirror'
    apply Records.wrapper
    intro dialog _ _
    apply Prog.Obeys.atom trivial
    intro _ _
    trivial

theorem records_createDialog (named : demands.named env.makeUiid) (contact : Contact) :
    Records demands mirror (createDialog p env contact) := by
  apply Records.addDialog named
  apply Records.wrapper
  intro dialog _ _
  exact records_sendRequest p env _ _ _ _

theorem records_answerCreateDialog {message : DialogMessage w}
    (named : demands.named message.mDialogId) (contact : Contact) :
    Records demands mirror (answerCreateDialog p env message contact) := by
  apply Records.addDialog named
  apply Records.wrapper
  intro dialog _ _
  refine Prog.Obeys.silentStep trivial (fun _ => rfl) ?_ fun _ => trivial
  intro content _
  apply makeMessage_records
  intro _
  exact (recordsNothing_sendMessage _ _ _).records

theorem records_prepareNotFoundDialog {message : DialogMessage w}
    (named : demands.named message.mDialogId) (channel : Str) :
    Records demands mirror (prepareNotFoundDialog p env message channel) := by
  unfold prepareNotFoundDialog
  split
  · trivial
  split
  · refine Prog.Obeys.silentStep trivial (fun _ => rfl) ?_ fun _ => trivial
    intro contacts _
    cases contacts with
    | cons contact rest => exact records_answerCreateDialog p env named contact
    | nil =>
      refine Prog.Obeys.silentStep trivial (fun _ => rfl) ?_ fun _ => trivial
      intro _ _
      exact (recordsNothing_sendAndForget _ channel).records
  · exact (recordsNothing_sendAndForget _ channel).records

theorem records_prepareVerifyKey (message : DialogMessage w) :
    Records demands mirror (prepareVerifyKey p env message) := by
  apply Records.wrapper
  intro dialog _ _
  refine Prog.Obeys.silentStep trivial (fun _ => rfl) ?_ fun _ => trivial
  intro contact _
  refine Prog.Obeys.silentStep trivial (fun _ => rfl) ?_ fun _ => trivial
  intro res _
  exact records_sendRequest p env _ _ _ _

theorem records_prepareKeyVerification (message : DialogMessage w) :
    Records demands mirror (prepareKeyVerification p env message) := by
  refine Prog.Obeys.silentStep trivial (fun _ => rfl) ?_ fun _ => trivial
  intro verified _
  split
  · apply Records.wrapper
    intro dialog _ _
    refine Prog.Obeys.silentStep trivial (fun _ => rfl) ?_ fun _ => trivial
    intro contact _
    exact records_sendRequest p env _ _ _ _
  · apply Prog.Obeys.andThen
    · exact records_abortDialog p env message.mDialogId
    · intro _ mirror'
      exact RecordsNothing.records (Prog.Obeys.silentAtom trivial fun _ => rfl)

theorem records_prepareStatusChange (message : DialogMessage w) :
    Records demands mirror (prepareStatusChange p message) := by
  apply Records.wrapper
  intro dialog found sameId
  rw [← sameId] at found
  refine Prog.Obeys.silentStep trivial (fun _ => rfl) ?_ fun _ => trivial
  intro contact _
  cases SecureDialogues.DialogActionHandler.map p message.mAction with
  | none => trivial
  | some status =>
    apply setStatus_records
    intro open'
    apply Records.saveDialog
    · exact found
    · exact .inr open'
    exact RecordsNothing.records (Prog.Obeys.silentAtom trivial fun _ => rfl)

theorem records_prepareForFoundDialog (message : DialogMessage w) :
    Records demands mirror (prepareForFoundDialog p env message) := by
  unfold prepareForFoundDialog
  split
  · exact records_prepareVerifyKey p env message
  split
  · exact records_prepareKeyVerification p env message
  · exact records_prepareStatusChange p message

theorem records_prepareHandleException (message : DialogMessage w) (channel : Str) :
    Records demands mirror (prepareHandleException p env message channel) := by
  apply Prog.Obeys.attempt
  · apply Records.hasDialog
    · intro _
      exact records_abortDialog p env message.mDialogId
    · intro _
      exact (recordsNothing_sendAndForget _ channel).records
  · intro _ _
    trivial

/-- The new counter is saved whatever the status is. -/
theorem records_handle {message : DialogMessage w} (named : demands.named message.mDialogId)
    (fresh : demands.Admits mirror.1 message) (channel : Str) :
    Records demands mirror (handle p env message channel) := by
  apply Prog.Obeys.attempt
  · apply Records.hasDialog
    · intro _
      apply Records.wrapper
      intro dialog found sameId
      cases accepted : dialog.isSequentalOk message.mSequentialNumber with
      | none => trivial
      | some next =>
        obtain ⟨larger, rfl⟩ := Dialog.isSequentalOk_eq_some.mp accepted
        have permitted : demands.ended ∨ dialog.mStatus.isEnded = false :=
          fresh.imp_right fun open' => open' dialog found larger
        rw [← sameId] at found
        apply Records.saveDialog
        · exact found
        · exact permitted
        refine Prog.Obeys.silentStep trivial (fun _ => rfl) ?_ fun _ => trivial
        intro _ _
        exact records_prepareForFoundDialog p env message
    · intro _
      exact records_prepareNotFoundDialog p env named channel
  · intro _ _
    exact records_prepareHandleException p env message channel

end DialogActionHandler

/-! ## Receiving -/

theorem recordsNothing_despatchError (error : DespatchError) (message : DialogMessage w)
    (channelMoniker : Str) :
    RecordsNothing demands mirror (despatchError p env error message channelMoniker) := by
  cases error with
  | contactNotFound =>
    unfold despatchError
    dsimp only
    split
    · apply Prog.Obeys.silentBind
      · apply Prog.Obeys.lift
        · intro _ _
          rfl
        · intro _ _
          rfl
      · intro _
        exact Prog.Obeys.silentAtom trivial fun _ => rfl
      · intro _
        rfl
    · rfl
  | exceptionThrown => rfl
  | signatureBroken => rfl
  | messageExpired => rfl

theorem recordsNothing_isSignatureValid (message : DialogMessage w) (channelName : Str) :
    RecordsNothing demands mirror (isSignatureValid p env message channelName) := by
  apply Prog.Obeys.noexcept
  refine Prog.Obeys.silentStep trivial (fun _ => rfl) ?_ fun _ => rfl
  intro valid _
  cases valid with
  | ok valid => rfl
  | error e =>
    dsimp only
    split
    · apply Prog.Obeys.silentBind
      · exact recordsNothing_despatchError p env _ message channelName
      · intro _
        rfl
      · intro _
        rfl
    · rfl

theorem records_runHandlers {message : DialogMessage w} (named : demands.named message.mDialogId)
    (incoming : message.mAction = .message → demands.incoming)
    (fresh : SecureDialogues.DialogActionHandler.isItYouAction message.mAction = true →
      demands.Admits mirror.1 message) (channelName : Str) :
    Records demands mirror (runHandlers p env message channelName) := by
  unfold runHandlers
  by_cases text : SecureDialogues.MessageActionHandler.isItYouAction message.mAction = true
  · have noControl : SecureDialogues.DialogActionHandler.isItYouAction message.mAction = false := by
      rw [eq_of_beq text]
      rfl
    rw [if_pos text, noControl]
    apply Prog.Obeys.andThen
    · exact MessageActionHandler.records_handle p env named (incoming (eq_of_beq text)) channelName
    · intro _ _
      trivial
  · rw [if_neg text]
    dsimp only
    split
    · rename_i control
      exact DialogActionHandler.records_handle p env named (fresh control) channelName
    · trivial

theorem records_dispatch {message : DialogMessage w}
    (named : message.mAction ≠ .ack → demands.named message.mDialogId)
    (incoming : message.mAction = .message → demands.incoming)
    (fresh : SecureDialogues.DialogActionHandler.isItYouAction message.mAction = true →
      demands.Admits mirror.1 message) (channelName : Str) :
    Records demands mirror (dispatch p env message channelName) := by
  apply Prog.Obeys.noexcept
  split
  · apply Prog.Obeys.andThen
    · exact records_removeEntry p _
    · intro _ _
      trivial
  · rename_i other
    apply Prog.Obeys.silentBind
    · exact recordsNothing_sendAck env message channelName
    · intro _
      apply Prog.Obeys.silentBind
      · exact recordsNothing_isSignatureValid p env message channelName
      · intro valid
        split
        · exact (recordsNothing_despatchError p env _ message channelName).records
        split
        · exact (recordsNothing_despatchError p env _ message channelName).records
        · exact records_runHandlers p env (named other) incoming fresh channelName
      · intro _
        trivial
    · intro _
      trivial

end Steps

/-! ## Inputs -/

/-- What the demands ask of an input. -/
def Demands.Permit (demands : Demands) (s : Core w) : Input w → Prop
  | .createDialog _ => demands.named env.makeUiid
  | .sendMessage _ => demands.named s.mMessageContainer.mActiveDialog
  | .dispatch message _ => (message.mAction ≠ .ack → demands.named message.mDialogId) ∧
      (message.mAction = .message → demands.incoming) ∧
      (DialogActionHandler.isItYouAction message.mAction = true →
        demands.Admits s.mDialogStorage message)
  | _ => True

/-- What an operation finds when it starts. -/
def Core.current (s : Core w) : Mirror w := (s.mDialogStorage, s.mMessageContainer.mActiveDialog)

theorem records_ofInput {input : Input w} {m : Steps w Unit} {s : Core w}
    (steps : Operation.steps p env (.ofInput input) = some m)
    (permitted : demands.Permit env s input) : Records demands s.current m := by
  cases input with
  | createDialog contact =>
    cases steps
    exact Steps.DialogActionHandler.records_createDialog p env permitted contact
  | closeDialog dialogId =>
    cases steps
    exact Steps.DialogActionHandler.records_closeDialog p env dialogId
  | abortDialog dialogId =>
    cases steps
    exact Steps.DialogActionHandler.records_abortDialog p env dialogId
  | removeDialog dialogId =>
    cases steps
    exact Steps.DialogActionHandler.records_removeDialog p env dialogId
  | setActiveDialog dialogId =>
    cases steps
    apply Prog.Obeys.atom trivial
    intro _ _
    trivial
  | sendMessage text =>
    cases steps
    exact Steps.MessageActionHandler.records_sendMessage p env permitted text
  | dispatch message channelName =>
    cases steps
    exact Steps.records_dispatch p env permitted.1 permitted.2.1 permitted.2.2 channelName
  | expire k =>
    cases steps
    exact Steps.records_expireEntry p env k
  | saveContact | addChannel | removeChannel | restart => cases steps

/-- Only one step changes the active dialog. -/
theorem change_mActiveDialog {a : Atom w} (other : ∀ dialogId, a ≠ .setActiveDialog dialogId)
    (container : MessageContainer) :
    (container.changed (a.change p)).mActiveDialog = container.mActiveDialog := by
  cases a with
  | setActiveDialog dialogId => exact absurd rfl (other dialogId)
  | saveDialog dialog =>
    rw [Atom.change]
    split <;> rfl
  | addToActiveDialog message =>
    show (container.perform _).mActiveDialog = _
    rw [MessageContainer.perform_addToActiveDialogWithWrapper]
    split <;> rfl
  | updateMessage dialogId number status =>
    show (container.updateMessage dialogId number status).mActiveDialog = _
    unfold MessageContainer.updateMessage
    split <;> rfl
  | _ => rfl

theorem setActiveDialog_mActiveDialog (container : MessageContainer) (dialogId : Str) :
    (container.setActiveDialog dialogId).mActiveDialog = dialogId := by
  unfold MessageContainer.setActiveDialog
  split
  · rename_i none
    exact none.symm
  split
  · rfl
  · rename_i same
    exact (not_not.mp same).symm

/-- Each step of an uninterrupted operation has a possible outcome and is followed in the
mirror. -/
theorem exec_mirrors (demands : Demands) (a : Atom w) (s : Core w) :
    (recording demands).possible s.current a (a.exec p env s).1 ∧
      (recording demands).note s.current a (a.exec p env s).1 = (a.exec p env s).2.current := by
  have active : (∀ dialogId, a ≠ .setActiveDialog dialogId) →
      (a.exec p env s).2.mMessageContainer.mActiveDialog = s.mMessageContainer.mActiveDialog := by
    intro other
    rw [Atom.exec_mMessageContainer, change_mActiveDialog p other]
  cases a with
  | wrapper dialogId =>
    cases found : s.mDialogStorage.find dialogId with
    | none =>
      simp only [Atom.exec, wrapper_of_none p found]
      exact ⟨trivial, rfl⟩
    | some dialog =>
      simp only [Atom.exec, wrapper_of_some p found]
      exact ⟨found, rfl⟩
  | hasDialog dialogId => exact ⟨rfl, rfl⟩
  | activeDialog => exact ⟨rfl, rfl⟩
  | setActiveDialog dialogId =>
    exact ⟨trivial, Prod.ext rfl (setActiveDialog_mActiveDialog _ _).symm⟩
  | addDialog dialog =>
    refine ⟨trivial, ?_⟩
    cases taken : s.mDialogStorage.has dialog.mDialogId with
    | true =>
      simp only [Atom.exec, addDialog_of_has p taken]
      rfl
    | false =>
      simp only [Atom.exec, addDialog_of_new p taken]
      rfl
  | saveDialog dialog => exact ⟨trivial, Prod.ext rfl (active (by simp)).symm⟩
  | removeDialog dialogId => exact ⟨trivial, rfl⟩
  | _ =>
    exact ⟨trivial, Prod.ext (Atom.exec_mDialogStorage p env rfl s).symm (active (by simp)).symm⟩

end

end SecureDialogues
