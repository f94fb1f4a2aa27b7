import SecureDialogues.Lib.Cost
import SecureDialogues.Protocol.Network
import SecureDialogues.Utils.MessageMarshallerProps

/-!
# No message storm

Messages are answered by messages. What an operation sends and what it leaves pending is charged by
a tariff; under one tariff the reaction to a message is cheaper than the message, so that any number
of instances that nobody bothers comes to rest.
-/

namespace SecureDialogues

open Text Effect

/-! ## Tariffs -/

/-- What a transmitted message costs by its action, and what a pending delivery costs. -/
structure Tariff where
  charge : Action → Nat
  pending : Nat

/-- What some messages cost. -/
def Tariff.total {w : Nat} (t : Tariff) (messages : List (DialogMessage w)) : Nat :=
  (messages.map fun message => t.charge message.mAction).sum

/-- All that an instance has transmitted so far, and its pending deliveries. -/
def Tariff.potential {w : Nat} (t : Tariff) (s : Core w) : Nat :=
  t.total (transmittedOf s.log) + t.pending * s.mRepo.size

/-- What the follow-up to an incoming message costs: the next request of the establishment of a
dialog, or an ABORT, perhaps after the request became pending in vain. -/
def Tariff.reply (t : Tariff) : Action → Nat
  | .createDialog => max (t.charge .verifyKey) (t.charge .abort) + t.pending
  | .verifyKey => max (t.charge .keyVerification) (t.charge .abort) + t.pending
  | .keyVerification => max (t.charge .acceptDialog) (t.charge .abort) + t.pending
  | .message | .acceptDialog | .closeDialog => t.charge .abort
  | .abort | .ack | .contactDiscover => 0

/-- The reaction to a message: an ACK and the follow-up, unless it is an ACK or an ABORT. -/
def Tariff.reaction (t : Tariff) : Action → Nat
  | .ack | .abort => 0
  | action => t.charge .ack + t.reply action

/-- What of it is spent when the reaction breaks off with an exception: a request may have become
pending whose transmission failed. -/
def Tariff.inVain (t : Tariff) : Action → Nat
  | .createDialog | .verifyKey | .keyVerification => t.pending
  | _ => 0

/-- After an exception there is still enough for an ABORT. -/
theorem Tariff.inVain_add_abort_le (t : Tariff) {action : Action}
    (handled : IsHandled action) (other : action ≠ .abort) :
    t.inVain action + t.charge .abort ≤ t.reply action := by
  cases action with
  | createDialog | verifyKey | keyVerification =>
    simp only [Tariff.inVain, Tariff.reply]
    omega
  | message | acceptDialog | closeDialog => exact (Nat.zero_add _).le
  | abort => exact absurd rfl other
  | ack | contactDiscover =>
    rcases handled with handled | handled
    · cases handled
    · cases handled

section

variable {w : Nat} (t : Tariff) (p : Platform w) (env : Env w)

theorem Tariff.potential_record (s : Core w) (event : Event w) :
    t.potential (s.record event) = t.potential s + t.total (transmittedOf [event]) := by
  simp only [Tariff.potential, Core.record, transmittedOf_append, Tariff.total, List.map_append,
    List.sum_append]
  omega

/-- Nothing changes for the tariff where the log and the pending deliveries are as they were. -/
theorem Tariff.potential_congr {s s' : Core w} (log : s'.log = s.log) (mRepo : s'.mRepo = s.mRepo) :
    t.potential s' = t.potential s := by
  rw [Tariff.potential, Tariff.potential, log, mRepo]

/-! ## What is free -/

theorem wrapper_free (dialogId : Str) : Eff.Leaves t.potential (wrapper p dialogId) :=
  Eff.Leaves.readsOr _

theorem getContact_free (contactId : Str) : Eff.Leaves t.potential (getContact p contactId) :=
  Eff.Leaves.readsOr _

theorem save_free (dialog : Dialog w) : Eff.Leaves t.potential (save p dialog) :=
  Eff.Leaves.update fun _ => t.potential_congr rfl rfl

theorem record_free {event : Event w} (free : transmittedOf [event] = []) :
    Eff.Leaves t.potential (Eff.update (·.record event) : M w Unit) := by
  apply Eff.Leaves.update
  intro s
  rw [t.potential_record, free]
  rfl

theorem mMessageContainer_free (f : Core w → MessageContainer) :
    Eff.Leaves t.potential
      (Eff.update fun s => { s with mMessageContainer := f s } : M w Unit) := by
  apply Eff.Leaves.update
  intro s
  exact t.potential_congr rfl rfl

theorem notify_free (severity : Severity) (text : Str) :
    Eff.Leaves t.potential (notify severity text : M w Unit) :=
  record_free t rfl

theorem setStatus_free (dialog : Dialog w) (status : Status) :
    Eff.Leaves t.potential (setStatus p dialog status) := by
  unfold setStatus
  split
  · exact .pure _
  · exact .raise _

theorem addDialog_free (dialog : Dialog w) : Eff.Leaves t.potential (addDialog p dialog) := by
  unfold addDialog
  apply Eff.Leaves.bind (.reads _)
  intro dialogs
  split
  · exact .raise _
  · apply Eff.Leaves.update
    intro s
    exact t.potential_record s (.dialogAdded dialog.mDialogId)

theorem makeMessage_free (action : Action) (dialog : Dialog w) (contact : Contact)
    (content : Str) : Eff.Leaves t.potential (makeMessage p env action dialog contact content) := by
  unfold makeMessage
  split
  · exact .pure _
  · exact .raise _

theorem createSignature_free (message : DialogMessage w) :
    Eff.Leaves t.potential (createSignature env message) :=
  Eff.Leaves.readsOr _

theorem emplaceCipher_free (dialogId : Str) (element : DialogElement) :
    Eff.Leaves t.potential (Eff.update (·.emplaceCipher dialogId element) : M w Unit) := by
  apply Eff.Leaves.update
  intro s
  unfold Core.emplaceCipher
  split
  · rfl
  · exact t.potential_record s (.keyInstalled dialogId)

theorem generateAndExportKey_free (dialogId addres : Str) :
    Eff.Leaves t.potential (generateAndExportKey p env dialogId addres) := by
  unfold generateAndExportKey
  apply Eff.Leaves.bind (.readsOr _)
  intro elem
  apply Eff.Leaves.bind (.readsOr _)
  rintro ⟨cipher, messBody⟩
  apply Eff.Leaves.bind (emplaceCipher_free t dialogId _)
  intro _
  apply Eff.Leaves.bind (.readsOr _)
  intro encrCheck
  exact .pure _

theorem importKey_free (dialogId message : Str) :
    Eff.Leaves t.potential (importKey p dialogId message) := by
  unfold importKey
  apply Eff.Leaves.bind (.readsOr _)
  intro cipher
  apply Eff.Leaves.bind (emplaceCipher_free t dialogId _)
  intro _
  apply Eff.Leaves.bind (.readsOr _)
  intro decr
  exact .readsOr _

/-! ## What sending costs -/

theorem makeMessage_returns (action : Action) (dialog : Dialog w) (contact : Contact)
    (content : Str) : Eff.Returns (makeMessage p env action dialog contact content)
      fun made => made.1.mAction = action := by
  intro s made s' returned
  unfold makeMessage at returned
  split at returned
  · cases returned
    rfl
  · cases returned

theorem channelSendMessage_costs (channelName : Str) (message : DialogMessage w) :
    Eff.Costs t.potential (t.charge message.mAction) 0
      (channelSendMessage env channelName message) := by
  unfold channelSendMessage
  apply Eff.Costs.after (.reads _)
  intro outcome
  cases outcome with
  | ok sent =>
    apply Eff.Costs.update
    intro s
    rw [t.potential_record]
    exact (Nat.add_le_add_left (by simp [transmittedOf, Tariff.total]) _)
  | error e =>
    exact .of_leaves (Eff.Leaves.bind (record_free t rfl) fun _ => .raise _)

theorem size_store_le (mRepo : TimeoutedRepository w DeliveryHandler) (now : Int)
    (handler : DeliveryHandler) (k : NumberedKey w) (timeout : Nat) :
    (mRepo.store now handler k timeout).size ≤ mRepo.size + 1 :=
  Std.ExtTreeMap.size_insertIfNew_le

/-- A request costs its message and its pending delivery. -/
theorem sendMessage_costs (message : DialogMessage w) (channelName : Str)
    (deliveryHandler : DeliveryHandler) :
    Eff.Costs t.potential (t.charge message.mAction + t.pending) t.pending
      (sendMessage env message channelName deliveryHandler) := by
  unfold sendMessage
  apply Eff.Costs.after (.reads _)
  intro channels
  split
  · exact .of_leaves (.pure _)
  · rename_i waitAckInterval connected
    apply Eff.Costs.after (createSignature_free t env message)
    intro sign
    have stored : Eff.Costs t.potential t.pending 0 (Eff.update fun s : Core w => { s with
        mRepo := s.mRepo.store env.systemClock deliveryHandler
          (message.mDialogId, message.mSequentialNumber) waitAckInterval } : M w Unit) := by
      apply Eff.Costs.update
      intro s
      have size := size_store_le s.mRepo env.systemClock deliveryHandler
        (message.mDialogId, message.mSequentialNumber) waitAckInterval
      have cost := Nat.mul_le_mul_left t.pending size
      simp only [Tariff.potential, Nat.mul_add, Nat.mul_one] at cost ⊢
      omega
    refine (stored.bind fun _ =>
      channelSendMessage_costs t env channelName (message.setSignature sign)).mono ?_ ?_
    · exact (Nat.add_comm _ _).le
    · omega

theorem sendAndForget_costs (message : DialogMessage w) (channelName : Str) :
    Eff.Costs t.potential (t.charge message.mAction) 0
      (sendAndForget env message channelName) := by
  unfold sendAndForget
  apply Eff.Costs.after (createSignature_free t env message)
  intro sign
  apply Eff.Costs.after (.reads _)
  intro channels
  split
  · exact channelSendMessage_costs t env channelName (message.setSignature sign)
  · exact .of_leaves (.pure _)

theorem sendAck_costs (message : DialogMessage w) (channel : Str) :
    Eff.Costs t.potential (t.charge .ack) 0 (sendAck env message channel) := by
  unfold sendAck
  apply Eff.Costs.after (.reads _)
  intro channels
  split
  · exact sendAndForget_costs t env (makeAck env.getTimestamp message) channel
  · exact .of_leaves (.pure _)

/-! ## What the dialog operations cost -/

theorem save_quiet (dialog : Dialog w) : Eff.Quiet (save p dialog) := Eff.Quiet.update _

theorem notify_quiet (severity : Severity) (text : Str) :
    Eff.Quiet (notify severity text : M w Unit) := Eff.Quiet.update _

theorem setStatus_quiet {dialog : Dialog w} {status : Status}
    (allowed : isStateTransitionAllowed dialog.mStatus status = true) :
    Eff.Quiet (setStatus p dialog status) := by
  intro s e thrown
  rw [setStatus_of_allowed p allowed] at thrown
  cases thrown

/-- A dialog that may be aborted is aborted without an exception. -/
theorem setAborted_quiet {dialog : Dialog w}
    (allowed : isMessageActionAllowed dialog.mStatus .abort = true) :
    Eff.Quiet (setStatus p dialog .aborted >>= fun dialog => save p dialog) := by
  apply Eff.Quiet.bind
  · apply setStatus_quiet
    rw [isStateTransitionAllowed_aborted, ← isMessageActionAllowed_abort]
    exact allowed
  · intro dialog
    exact save_quiet p dialog

theorem sendRequest_costs (dialogId : Str) (action : Action) (handler : DeliveryHandler)
    (content : Str) :
    Eff.Costs t.potential (t.charge action + t.pending) t.pending
      (DialogActionHandler.sendRequest p env dialogId action handler content) := by
  unfold DialogActionHandler.sendRequest
  apply Eff.Costs.after (wrapper_free t p dialogId)
  intro dialog
  apply Eff.Costs.after (getContact_free t p dialog.mContactId)
  intro contact
  apply Eff.Costs.after_of (makeMessage_free t p env action dialog contact content)
    (makeMessage_returns p env action dialog contact content)
  rintro ⟨msg, counted⟩ rfl
  apply (sendMessage_costs t env msg contact.channelMoniker handler).before
  · intro _
    exact save_free t p counted
  · intro _
    exact save_quiet p counted

theorem abortDialog_costs (dialogId : Str) :
    Eff.Costs t.potential (t.charge .abort) 0
      (DialogActionHandler.abortDialog p env dialogId) := by
  unfold DialogActionHandler.abortDialog
  apply Eff.Costs.after (wrapper_free t p dialogId)
  intro dialog
  apply Eff.Costs.after (getContact_free t p dialog.mContactId)
  intro contact
  split
  · rename_i allowed
    have sent := sendAndForget_costs t env (makeAbort env.getTimestamp dialog.mDialogId
      contact.adress dialog.makeNextSequental.mThisSequental) contact.channelMoniker
    apply sent.before
    · intro _
      apply Eff.Leaves.bind (setStatus_free t p _ _)
      intro aborted
      exact save_free t p aborted
    · intro _
      have same : dialog.makeNextSequental.mStatus = dialog.mStatus := rfl
      rw [← same] at allowed
      exact setAborted_quiet p allowed
  · exact .of_leaves (.pure _)

theorem strayAbort_costs (message : DialogMessage w) (channel : Str) :
    Eff.Costs t.potential (t.charge .abort) 0
      (sendAndForget env (strayAbort env message) channel) :=
  sendAndForget_costs t env (strayAbort env message) channel

/-! ## What the handlers cost -/

theorem answerCreateDialog_costs (message : DialogMessage w) (contact : Contact) :
    Eff.Costs t.potential (t.charge .verifyKey + t.pending) t.pending
      (DialogActionHandler.answerCreateDialog p env message contact) := by
  unfold DialogActionHandler.answerCreateDialog
  apply Eff.Costs.after (addDialog_free t p _)
  intro _
  apply Eff.Costs.after (wrapper_free t p _)
  intro stored
  apply Eff.Costs.after (generateAndExportKey_free t p env _ _)
  intro content
  apply Eff.Costs.after_of (makeMessage_free t p env .verifyKey stored contact content)
    (makeMessage_returns p env .verifyKey stored contact content)
  rintro ⟨msg, counted⟩ named
  have sent := sendMessage_costs t env msg contact.channelMoniker
    (.forWaitVerificationDialogRequest counted.mDialogId contact)
  rw [show msg.mAction = .verifyKey from named] at sent
  exact sent

theorem prepareNotFoundDialog_costs {message : DialogMessage w} (channel : Str)
    (handled : DialogActionHandler.isItYouAction message.mAction = true)
    (other : message.mAction ≠ .abort) :
    Eff.Costs t.potential (t.reply message.mAction) (t.inVain message.mAction)
      (DialogActionHandler.prepareNotFoundDialog p env message channel) := by
  have enough := t.inVain_add_abort_le (.inr handled) other
  unfold DialogActionHandler.prepareNotFoundDialog
  rw [if_neg other]
  split
  · rename_i create
    apply Eff.Costs.after (.reads _)
    intro contacts
    cases contacts with
    | cons contact _ =>
      rw [create]
      apply (answerCreateDialog_costs t p env message contact).mono
      · simp only [Tariff.reply]
        omega
      · exact le_rfl
    | nil =>
      apply Eff.Costs.after (notify_free t _ _)
      intro _
      exact (strayAbort_costs t env message channel).mono (by omega) (Nat.zero_le _)
  · exact (strayAbort_costs t env message channel).mono (by omega) (Nat.zero_le _)

theorem prepareStatusChange_free (message : DialogMessage w) :
    Eff.Leaves t.potential (DialogActionHandler.prepareStatusChange p message) := by
  unfold DialogActionHandler.prepareStatusChange
  apply Eff.Leaves.bind (wrapper_free t p _)
  intro dialog
  apply Eff.Leaves.bind (getContact_free t p _)
  intro contact
  split
  · exact fun _ => rfl
  · apply Eff.Leaves.bind (setStatus_free t p _ _)
    intro changed
    apply Eff.Leaves.bind (save_free t p changed)
    intro _
    exact notify_free t _ _

theorem prepareVerifyKey_costs (message : DialogMessage w) :
    Eff.Costs t.potential (t.charge .keyVerification + t.pending) t.pending
      (DialogActionHandler.prepareVerifyKey p env message) := by
  unfold DialogActionHandler.prepareVerifyKey
  apply Eff.Costs.after (wrapper_free t p _)
  intro dialog
  apply Eff.Costs.after (getContact_free t p _)
  intro contact
  apply Eff.Costs.after (importKey_free t p _ _)
  intro res
  exact sendRequest_costs t p env _ _ _ _

theorem prepareKeyVerification_costs (message : DialogMessage w) :
    Eff.Costs t.potential (max (t.charge .acceptDialog) (t.charge .abort) + t.pending) t.pending
      (DialogActionHandler.prepareKeyVerification p env message) := by
  unfold DialogActionHandler.prepareKeyVerification
  apply Eff.Costs.after (.readsOr _)
  intro verified
  split
  · apply Eff.Costs.after (wrapper_free t p _)
    intro dialog
    apply Eff.Costs.after (getContact_free t p _)
    intro contact
    exact (sendRequest_costs t p env _ _ _ _).mono (by omega) le_rfl
  · have aborted := abortDialog_costs t p env message.mDialogId
    apply Eff.Costs.before (aborted.mono (by omega) (Nat.zero_le _))
    · intro _
      exact notify_free t _ _
    · intro _
      exact notify_quiet _ _

theorem prepareForFoundDialog_costs (message : DialogMessage w) :
    Eff.Costs t.potential (t.reply message.mAction) (t.inVain message.mAction)
      (DialogActionHandler.prepareForFoundDialog p env message) := by
  unfold DialogActionHandler.prepareForFoundDialog
  split
  · rename_i action
    rw [action]
    exact (prepareVerifyKey_costs t p env message).mono
      (by simp only [Tariff.reply]; omega) le_rfl
  · split
    · rename_i action
      rw [action]
      exact prepareKeyVerification_costs t p env message
    · exact .of_leaves (prepareStatusChange_free t p message)

/-- The exception handler: at most an ABORT, and no further exception. -/
theorem prepareHandleException_costs (message : DialogMessage w) (channel : Str) :
    Eff.Costs t.potential (t.charge .abort) 0
      (DialogActionHandler.prepareHandleException p env message channel) := by
  unfold DialogActionHandler.prepareHandleException
  refine Eff.Costs.catching_pure ?_ (Nat.zero_le _)
  apply Eff.Costs.after (.reads _)
  intro dialogs
  split
  · exact abortDialog_costs t p env message.mDialogId
  · exact strayAbort_costs t env message channel

theorem dialogHandle_costs {message : DialogMessage w} (channel : Str)
    (handled : DialogActionHandler.isItYouAction message.mAction = true)
    (other : message.mAction ≠ .abort) :
    Eff.Costs t.potential (t.reply message.mAction) (t.inVain message.mAction)
      (DialogActionHandler.handle p env message channel) := by
  have enough := t.inVain_add_abort_le (.inr handled) other
  unfold DialogActionHandler.handle
  suffices body : Eff.Costs t.potential (t.reply message.mAction) (t.inVain message.mAction) _ from
    (body.catching fun _ => prepareHandleException_costs t p env message channel).mono
      (by omega) le_rfl
  apply Eff.Costs.after (.reads _)
  intro dialogs
  split
  · apply Eff.Costs.after (wrapper_free t p _)
    intro dialog
    split
    · exact .of_leaves (.pure _)
    · rename_i counted newer
      apply Eff.Costs.after (save_free t p counted)
      intro _
      apply Eff.Costs.after (record_free t rfl)
      intro _
      exact prepareForFoundDialog_costs t p env message
  · exact prepareNotFoundDialog_costs t p env channel handled other

theorem abortOnException_costs (message : DialogMessage w) (channel : Str) :
    Eff.Costs t.potential (t.charge .abort) 0
      (MessageActionHandler.abortOnException p env message channel) := by
  unfold MessageActionHandler.abortOnException
  refine Eff.Costs.catching_pure ?_ (Nat.zero_le _)
  apply Eff.Costs.after (mMessageContainer_free t _)
  intro _
  apply Eff.Costs.after (.reads _)
  intro dialogs
  split
  · unfold MessageActionHandler.abortStored
    apply Eff.Costs.after (wrapper_free t p _)
    intro dialog
    apply Eff.Costs.after (getContact_free t p _)
    intro contact
    apply Eff.Costs.after (setStatus_free t p _ _)
    intro aborted
    have sent := sendAndForget_costs t env (makeAbort env.getTimestamp dialog.mDialogId
      contact.adress dialog.makeNextSequental.mThisSequental) channel
    apply sent.before
    · intro _
      exact save_free t p aborted
    · intro _
      exact save_quiet p aborted
  · exact strayAbort_costs t env message channel

theorem messageHandle_costs (message : DialogMessage w) (channel : Str) :
    Eff.Costs t.potential (t.charge .abort) 0
      (MessageActionHandler.handle p env message channel) := by
  unfold MessageActionHandler.handle
  suffices body : Eff.Costs t.potential (t.charge .abort) 0 _ from
    (body.catching fun _ => abortOnException_costs t p env message channel).mono
      (by omega) le_rfl
  apply Eff.Costs.after (.reads _)
  intro dialogs
  split
  · apply Eff.Costs.after (wrapper_free t p _)
    intro dialog
    split
    · exact .of_leaves (.pure _)
    · unfold MessageActionHandler.acceptText
      apply Eff.Costs.of_leaves
      apply Eff.Leaves.bind (.readsOr _)
      intro content
      apply Eff.Leaves.bind (mMessageContainer_free t _)
      intro _
      exact record_free t rfl
  · apply Eff.Costs.after (notify_free t _ _)
    intro _
    exact strayAbort_costs t env message channel

/-! ## ACKs and ABORTs -/

/-- An ACK transmits nothing and makes nothing pending. -/
theorem removeEntry_costs (k : NumberedKey w) :
    Eff.Costs t.potential 0 0 (removeEntry p k) := by
  unfold removeEntry
  apply Eff.Costs.after (.reads _)
  intro mValues
  split
  · exact .of_leaves (.pure _)
  · rename_i stored found
    apply Eff.Costs.after
    · cases stored.element with
      | dialogAction dialogId mNext mAbortNeed mAddress mChannel =>
        unfold removed
        apply Eff.Leaves.bind (wrapper_free t p _)
        intro dialog
        apply Eff.Leaves.bind (setStatus_free t p _ _)
        intro changed
        exact save_free t p changed
      | messageNotDeliveried dialogId number => exact mMessageContainer_free t _
    · intro _
      apply Eff.Costs.before
      · apply Eff.Costs.update
        intro s
        have size : (s.mRepo.erase k).size ≤ s.mRepo.size := Std.ExtTreeMap.size_erase_le
        exact Nat.add_le_add_left (Nat.mul_le_mul_left _ size) _
      · intro _
        exact .pure _
      · intro _
        exact .pure _

/-- An ended dialog, or one without its contact, is not aborted. -/
theorem prepareHandleException_of_refused {message : DialogMessage w} {s : Core w}
    {dialog : Dialog w} (stored : s.mDialogStorage.find message.mDialogId = some dialog)
    (refused : s.mContactStorage[dialog.mContactId]? = none ∨ dialog.mStatus.isEnded = true)
    (channel : Str) : (DialogActionHandler.prepareHandleException p env message channel s).2 = s := by
  have has : s.mDialogStorage.has message.mDialogId = true := has_iff.mpr ⟨dialog, stored⟩
  have body : ∃ outcome, (∀ s' : Core w, outcome ≠ (.error .terminated, s')) ∧ outcome.2 = s ∧
      DialogActionHandler.abortDialog p env message.mDialogId s = outcome := by
    unfold DialogActionHandler.abortDialog
    rw [Eff.bind_ok (wrapper_of_some p stored)]
    cases found : s.mContactStorage[dialog.mContactId]? with
    | none =>
      rw [Eff.bind_error (getContact_of_none p found)]
      exact ⟨_, by simp, rfl, rfl⟩
    | some contact =>
      have ended : dialog.mStatus.isEnded = true := by
        rcases refused with missing | ended
        · rw [found] at missing
          cases missing
        · exact ended
      rw [Eff.bind_ok (getContact_of_some p found),
        if_neg (by simp [isMessageActionAllowed_abort, ended])]
      exact ⟨(.ok (), s), by simp, rfl, rfl⟩
  obtain ⟨outcome, returned, same, aborts⟩ := body
  unfold DialogActionHandler.prepareHandleException Eff.catching
  rw [Eff.reads_bind, if_pos has, aborts]
  rcases outcome with ⟨(e | _) | a, s'⟩
  · exact same
  · exact absurd rfl (returned s')
  · exact same

/-- The status change to ABORTED is refused only for such dialogs. -/
theorem prepareStatusChange_abort {message : DialogMessage w} (abort : message.mAction = .abort)
    {s : Core w} {dialog : Dialog w}
    (stored : s.mDialogStorage.find message.mDialogId = some dialog) :
    (∃ s', DialogActionHandler.prepareStatusChange p message s = (.ok (), s')) ∨
      ∃ e, DialogActionHandler.prepareStatusChange p message s = (.error (.thrown e), s) ∧
        (s.mContactStorage[dialog.mContactId]? = none ∨ dialog.mStatus.isEnded = true) := by
  unfold DialogActionHandler.prepareStatusChange
  rw [Eff.bind_ok (wrapper_of_some p stored)]
  cases found : s.mContactStorage[dialog.mContactId]? with
  | none =>
    rw [Eff.bind_error (getContact_of_none p found)]
    exact .inr ⟨_, rfl, .inl rfl⟩
  | some contact =>
    rw [Eff.bind_ok (getContact_of_some p found), abort]
    show (∃ s', (setStatus p dialog .aborted >>= _ : M w Unit) s = (.ok (), s')) ∨
      ∃ e, (setStatus p dialog .aborted >>= _ : M w Unit) s = (.error (.thrown e), s) ∧ _
    cases ended : dialog.mStatus.isEnded with
    | false =>
      rw [Eff.bind_ok (setAborted_of_open p ended s)]
      exact .inl ⟨_, rfl⟩
    | true =>
      obtain ⟨e, thrown⟩ := setAborted_of_ended p ended s
      rw [Eff.bind_error thrown]
      exact .inr ⟨e, rfl, .inr rfl⟩

/-- An ABORT is not answered, whatever becomes of it. -/
theorem dialogHandle_abort_free {message : DialogMessage w} (abort : message.mAction = .abort)
    (channel : Str) :
    Eff.Leaves t.potential (DialogActionHandler.handle p env message channel) := by
  intro s
  unfold DialogActionHandler.handle Eff.catching
  rw [Eff.reads_bind]
  cases has : s.mDialogStorage.has message.mDialogId with
  | false =>
    rw [if_neg (by simp), DialogActionHandler.prepareNotFoundDialog, if_pos abort]
    rfl
  | true =>
    obtain ⟨dialog, stored⟩ := has_iff.mp has
    rw [if_pos rfl, Eff.bind_ok (wrapper_of_some p stored)]
    cases newer : dialog.isSequentalOk message.mSequentialNumber with
    | none => rfl
    | some counted =>
      obtain ⟨-, rfl⟩ := Dialog.isSequentalOk_eq_some.mp newer
      have named : dialog.mDialogId = message.mDialogId := DialogStorage.mDialogId_of_find stored
      -- The state in which the status is to be changed.
      obtain ⟨saved, reached⟩ : ∃ saved, saved = (s.saveDialog p { dialog with
          mPeerSequental := message.mSequentialNumber }).record
            (.controlTaken message.mDialogId message.mSequentialNumber) := ⟨_, rfl⟩
      have found : saved.mDialogStorage.find message.mDialogId =
          some { dialog with mPeerSequental := message.mSequentialNumber } := by
        rw [reached, ← named]
        exact DialogStorage.find_put_self _
      have free : t.potential saved = t.potential s := by
        rw [reached, t.potential_record]
        rfl
      simp only [save, Eff.update_bind, ← reached, DialogActionHandler.prepareForFoundDialog]
      rw [if_neg (by simp [abort]), if_neg (by simp [abort])]
      have changes := prepareStatusChange_free t p message saved
      rcases prepareStatusChange_abort p abort found with
        ⟨s', returned⟩ | ⟨e, thrown, refused⟩
      · rw [returned] at changes ⊢
        exact changes.trans free
      · rw [thrown]
        show t.potential (DialogActionHandler.prepareHandleException p env message channel saved).2 = _
        rw [prepareHandleException_of_refused p env found refused, free]

/-! ## What a dispatched message costs -/

theorem despatchError_free (error : DespatchError) (message : DialogMessage w)
    (channel : Str) : Eff.Leaves t.potential (despatchError p env error message channel) := by
  cases error with
  | contactNotFound =>
    simp only [despatchError]
    by_cases discover : message.mAction = .contactDiscover
    · rw [if_pos discover]
      apply Eff.Leaves.bind (.readsOr _)
      rintro ⟨name, publicKey⟩
      apply Eff.Leaves.bind (.reads _)
      intro discovered
      split
      · exact .raise _
      · apply Eff.Leaves.update
        intro s
        exact t.potential_congr rfl rfl
    · rw [if_neg discover]
      exact .pure _
  | exceptionThrown | signatureBroken | messageExpired => exact .pure _

theorem isSignatureValid_free (message : DialogMessage w) (channel : Str) :
    Eff.Leaves t.potential (isSignatureValid p env message channel) := by
  unfold isSignatureValid
  intro s
  rw [Eff.noexcept_state]
  revert s
  apply Eff.Leaves.bind (.reads _)
  intro valid
  cases valid with
  | ok valid => exact .pure _
  | error e =>
    dsimp only
    split
    · apply Eff.Leaves.bind (despatchError_free t p env _ message channel)
      intro _
      exact .pure _
    · apply Eff.Leaves.bind (despatchError_free t p env _ message channel)
      intro _
      exact .pure _

theorem runHandlers_costs (message : DialogMessage w) (channel : Str) :
    Eff.Costs t.potential (t.reply message.mAction) (t.reply message.mAction)
      (runHandlers p env message channel) := by
  apply Eff.Costs.of_bounded
  intro s
  by_cases text : message.mAction = .message
  · rw [runHandlers_of_message text, text]
    exact (messageHandle_costs t p env message channel).bounded s
  by_cases control : DialogActionHandler.isItYouAction message.mAction = true
  · rw [runHandlers_of_control control]
    by_cases abort : message.mAction = .abort
    · rw [dialogHandle_abort_free t p env abort channel s]
      exact Nat.le_add_right _ _
    · exact (dialogHandle_costs t p env channel control abort).bounded s
  · rw [runHandlers_of_neither text control]
    exact Nat.le_add_right _ _

theorem sendAck_free {message : DialogMessage w} (abort : message.mAction = .abort)
    (channel : Str) : Eff.Leaves t.potential (sendAck env message channel) := by
  unfold sendAck
  apply Eff.Leaves.bind (.reads _)
  intro channels
  rw [if_neg (by simp [abort])]
  exact .pure _

theorem handleValid_costs (message : DialogMessage w) (channel : Str) :
    Eff.Costs t.potential (t.reply message.mAction) (t.reply message.mAction) (do
      let valid ← isSignatureValid p env message channel
      if valid = false then despatchError p env .signatureBroken message channel
      else if isExpired env message then despatchError p env .messageExpired message channel
      else runHandlers p env message channel : M w Unit) := by
  apply Eff.Costs.after (isSignatureValid_free t p env message channel)
  intro valid
  split
  · exact .of_leaves (despatchError_free t p env _ message channel)
  · split
    · exact .of_leaves (despatchError_free t p env _ message channel)
    · exact runHandlers_costs t p env message channel

theorem dispatchMessage_costs {message : DialogMessage w} (channel : Str)
    (noAck : message.mAction ≠ .ack) :
    Eff.Costs t.potential (t.reaction message.mAction) (t.reaction message.mAction)
      (dispatchMessage p env message channel) := by
  unfold dispatchMessage
  have rest := handleValid_costs t p env message channel
  by_cases abort : message.mAction = .abort
  · apply Eff.Costs.after (sendAck_free t env abort channel)
    intro _
    rw [abort] at rest ⊢
    exact rest
  · have reaction : t.reaction message.mAction = t.charge .ack + t.reply message.mAction := by
      cases action : message.mAction with
      | ack => exact absurd action noAck
      | abort => exact absurd action abort
      | _ => rfl
    rw [reaction]
    exact ((sendAck_costs t env message channel).bind fun _ => rest).mono le_rfl (by omega)

/-- What becomes of a message: nothing is transmitted on an ACK or an ABORT, and at most an ACK and
a follow-up on any other. -/
theorem dispatch_costs (message : DialogMessage w) (channel : Str) :
    Eff.Costs t.potential (t.reaction message.mAction) 0 (dispatch p env message channel) := by
  unfold dispatch
  suffices body : Eff.Costs t.potential (t.reaction message.mAction) (t.reaction message.mAction) _
    from body.noexcept
  by_cases ack : message.mAction = .ack
  · rw [if_pos ack, ack]
    apply (removeEntry_costs t p _).before
    · intro _
      exact .pure _
    · intro _
      exact .pure _
  · rw [if_neg ack]
    exact dispatchMessage_costs t p env channel ack

/-! ## What an expiry costs -/

/-- The callback of an overdue entry leaves the pending deliveries alone. -/
theorem timeouted_mRepo (handler : DeliveryHandler) (s : Core w) :
    (timeouted p env handler s).2.mRepo = s.mRepo := by
  cases handler with
  | messageNotDeliveried dialogId number => rfl
  | dialogAction dialogId mNext mAbortNeed mAddress mChannel =>
    cases found : s.mDialogStorage.find dialogId with
    | none =>
      simp only [timeouted]
      rw [Eff.bind_error (wrapper_of_none p found)]
    | some dialog =>
      obtain rfl : dialog.mDialogId = dialogId := DialogStorage.mDialogId_of_find found
      obtain ⟨events, ⟨-, -, outcome⟩ | ⟨-, -, e, outcome⟩⟩ :=
        timeouted_cases (p := p) mNext mAbortNeed mAddress mChannel found
      · rw [outcome]
        rfl
      · rw [outcome]

theorem timeouted_costs (handler : DeliveryHandler) :
    Eff.Costs t.potential (t.charge .abort) (t.charge .abort) (timeouted p env handler) := by
  cases handler with
  | messageNotDeliveried dialogId number => exact .of_leaves (mMessageContainer_free t _)
  | dialogAction dialogId mNext mAbortNeed mAddress mChannel =>
    simp only [timeouted]
    apply Eff.Costs.after (wrapper_free t p _)
    intro dialog
    have rest : ∀ dialog : Dialog w, Eff.Leaves t.potential (do
        notify .error (p.text
          "Dialog with \x7b\x7d was removed because participant didn't respond" [mAddress])
        let dialog ← setStatus p dialog .aborted
        save p dialog : M w Unit) := by
      intro dialog
      apply Eff.Leaves.bind (notify_free t _ _)
      intro _
      apply Eff.Leaves.bind (setStatus_free t p _ _)
      intro aborted
      exact save_free t p aborted
    split
    · have sent := sendAndForget_costs t env (makeAbort env.getTimestamp
        dialog.makeNextSequental.mDialogId mAddress dialog.makeNextSequental.mThisSequental) mChannel
      have free : ∀ _ : Unit, Eff.Costs t.potential 0 0 _ :=
        fun _ => .of_leaves (rest dialog.makeNextSequental)
      exact (sent.bind free).mono le_rfl (max_le (Nat.zero_le _) le_rfl)
    · exact .of_leaves (rest dialog)

/-! ## Steps of one instance -/

/-- What the state of an instance holds in store: its pending deliveries, if it is running. -/
def Tariff.standing (s : Core w) : Nat := if s.alive then t.pending * s.mRepo.size else 0

theorem Tariff.total_append (first second : List (DialogMessage w)) :
    t.total (first ++ second) = t.total first + t.total second := by
  simp [Tariff.total]

/-- A rise of the potential is made of what was transmitted and of what is pending. -/
theorem Tariff.potential_eq {s s' : Core w} {events : List (Event w)}
    (log : s'.log = s.log ++ events) : t.potential s' =
      t.total (transmittedOf s.log) + t.total (transmitted s s') + t.pending * s'.mRepo.size := by
  rw [Tariff.potential, transmitted_eq log, log, transmittedOf_append, t.total_append]

theorem exec_log (input : Input w) (running : input ≠ .restart) (s : Core w) :
    ∃ events, (exec p env input s).log = s.log ++ events :=
  (exec_moves p env running s).log

/-- The reaction to a message is paid for by the message. -/
theorem exec_dispatch_standing (message : DialogMessage w) (channel : Str) (s : Core w) :
    t.total (transmitted s (exec p env (.dispatch message channel) s)) +
        t.standing (exec p env (.dispatch message channel) s) ≤
      t.standing s + t.reaction message.mAction := by
  by_cases alive : s.alive = true
  · obtain ⟨events, log⟩ := exec_log p env (.dispatch message channel) (by simp) s
    obtain ⟨running, s', left, stepped⟩ := exec_dispatch_eq p env message channel alive
    have costs := (dispatch_costs t p env message channel).bounded s
    have same : t.potential (exec p env (.dispatch message channel) s) = t.potential s' := by
      rw [stepped]
      exact t.potential_congr rfl rfl
    rw [left, ← same, t.potential_eq log, Tariff.potential] at costs
    simp only [Tariff.standing, alive, if_true]
    split <;> omega
  · rw [exec_of_dead p env (by simp [alive]), transmitted_self]
    simp [Tariff.total]

/-- The checking thread finds an overdue entry: it is taken out, or the program ends. -/
theorem exec_expire_cases {k : NumberedKey w} {s : Core w} (alive : s.alive = true)
    {element : DeliveryHandler} (late : s.mRepo.overdue env.systemClock k = some element) :
    (timeouted p env element s).2.log = (exec p env (.expire k) s).log ∧
      ((exec p env (.expire k) s).alive = false ∨
        (exec p env (.expire k) s).mRepo = s.mRepo.erase k) := by
  have kept := timeouted_mRepo p env element s
  rw [exec, if_pos (.inl alive), perform, expireEntry, Eff.noexcept, Eff.reads_bind, late]
  simp only [Eff.bind_apply]
  rcases outcome : timeouted p env element s with ⟨(e | _) | a, s'⟩
  · exact ⟨rfl, .inl rfl⟩
  · exact ⟨rfl, .inl rfl⟩
  · refine ⟨rfl, .inr ?_⟩
    rw [outcome] at kept
    show s'.mRepo.erase k = _
    rw [kept]

/-- The expiry of a delivery is paid for by the delivery. -/
theorem exec_expire_standing {k : NumberedKey w} {s : Core w} (alive : s.alive = true)
    (late : s.mRepo.overdue env.systemClock k ≠ none) (dearer : t.charge .abort < t.pending) :
    t.total (transmitted s (exec p env (.expire k) s)) + t.standing (exec p env (.expire k) s) <
      t.standing s := by
  obtain ⟨element, found⟩ := Option.ne_none_iff_exists'.mp late
  obtain ⟨stored, member, -⟩ := TimeoutedRepository.overdue_eq_some s.mRepo found
  have taken : k ∈ s.mRepo := by
    rw [Std.ExtTreeMap.mem_iff_isSome_getElem?, member]
    rfl
  obtain ⟨events, log⟩ := exec_log p env (.expire k) (by simp) s
  obtain ⟨sameLog, left⟩ := exec_expire_cases p env alive found
  have costs := (timeouted_costs t p env element).bounded s
  have spent : t.total (transmitted s (exec p env (.expire k) s)) ≤ t.charge .abort := by
    rw [Tariff.potential, Tariff.potential, timeouted_mRepo, sameLog, log, transmittedOf_append,
      t.total_append] at costs
    rw [transmitted_eq log]
    omega
  have filled : 1 ≤ s.mRepo.size := by
    have nonempty : s.mRepo.size ≠ 0 := by
      intro none_
      have absent : s.mRepo = ∅ := Std.ExtTreeMap.eq_empty_iff_size_eq_zero.mpr none_
      rw [absent] at taken
      exact Std.ExtTreeMap.not_mem_empty taken
    omega
  have most : t.pending * 1 ≤ t.pending * s.mRepo.size := Nat.mul_le_mul_left _ filled
  have before : t.standing s = t.pending * s.mRepo.size := if_pos alive
  rcases left with ended | erased
  · have after : t.standing (exec p env (.expire k) s) = 0 := if_neg (by simp [ended])
    omega
  · have after : t.standing (exec p env (.expire k) s) ≤ t.pending * (s.mRepo.size - 1) := by
      have size : (s.mRepo.erase k).size = s.mRepo.size - 1 := by
        rw [Std.ExtTreeMap.size_erase, if_pos (by simpa using taken)]
      rw [Tariff.standing, erased, size]
      split
      · exact le_rfl
      · exact Nat.zero_le _
    rw [Nat.mul_sub, Nat.mul_one] at after
    omega

end

/-! ## Any number of instances -/

/-- Instances, and the messages that are on their way between them. -/
structure Traffic (ι : Type) (w : Nat) where
  instances : ι → Core w
  inFlight : Multiset (DialogMessage w)

/-- The tariff under which a reaction is cheaper than what it reacts to. -/
def weights : Tariff where
  charge
    | .ack | .abort => 1
    | .message | .acceptDialog | .closeDialog | .contactDiscover => 3
    | .keyVerification => 7
    | .verifyKey => 11
    | .createDialog => 15
  pending := 2

theorem reaction_lt (action : Action) : weights.reaction action < weights.charge action := by
  cases action <;> decide

namespace Traffic

variable {ι : Type} [DecidableEq ι] {w : Nat} (platform : ι → Platform w)

/-- An instance does something, and what it transmits is on its way; `rest` is what was left of
the messages in flight. -/
def react (net : Traffic ι w) (rest : Multiset (DialogMessage w)) (i : ι) (env : Env w)
    (input : Input w) : Traffic ι w :=
  let s := net.instances i
  let s' := exec (platform i) env input s
  { instances := Function.update net.instances i s'
    inFlight := rest + (transmitted s s' : List (DialogMessage w)) }

/-- What happens when no user does anything: a text arrives at some instance, over some channel and
with some address, or at none, or cannot be read there, or a pending delivery expires. -/
inductive Step (net : Traffic ι w) : Traffic ι w → Prop where
  | deliver {message received : DialogMessage w} {rest : Multiset (DialogMessage w)}
      (flying : net.inFlight = message ::ₘ rest) (i : ι) (env : Env w)
      (stack : Action × BitVec w) (address channel : Str)
      (parsed : unmarshall stack (marshall message) address = some received) :
      Step net (net.react platform rest i env (.dispatch received channel))
  | lose {message : DialogMessage w} {rest : Multiset (DialogMessage w)}
      (flying : net.inFlight = message ::ₘ rest) : Step net { net with inFlight := rest }
  | expire (i : ι) (env : Env w) {k : NumberedKey w} (alive : (net.instances i).alive = true)
      (late : (net.instances i).mRepo.overdue env.systemClock k ≠ none) :
      Step net (net.react platform net.inFlight i env (.expire k))

variable [Fintype ι]

/-- The measure of what is in flight and what is pending. -/
def rank (net : Traffic ι w) : Nat :=
  (net.inFlight.map fun message => weights.charge message.mAction).sum +
    ∑ i, weights.standing (net.instances i)

variable {platform} {net net' : Traffic ι w}

theorem weights_total (messages : List (DialogMessage w)) :
    (Multiset.map (fun message => weights.charge message.mAction)
      (messages : Multiset (DialogMessage w))).sum = weights.total messages := by
  simp [Tariff.total]

variable (platform) in
/-- Only the instance that does something changes. -/
theorem rank_react (net : Traffic ι w) (rest : Multiset (DialogMessage w)) (i : ι) (env : Env w)
    (input : Input w) :
    (net.react platform rest i env input).rank + weights.standing (net.instances i) =
      (rest.map fun message => weights.charge message.mAction).sum +
        (∑ j, weights.standing (net.instances j)) +
        (weights.total (transmitted (net.instances i)
            (exec (platform i) env input (net.instances i))) +
          weights.standing (exec (platform i) env input (net.instances i))) := by
  have others : ∑ j ∈ Finset.univ.erase i, weights.standing
      ((net.react platform rest i env input).instances j) =
        ∑ j ∈ Finset.univ.erase i, weights.standing (net.instances j) := by
    apply Finset.sum_congr rfl
    intro j member
    simp only [react]
    rw [Function.update_of_ne (Finset.ne_of_mem_erase member)]
  have own : (net.react platform rest i env input).instances i =
      exec (platform i) env input (net.instances i) := Function.update_self ..
  rw [rank, ← Finset.add_sum_erase Finset.univ _ (Finset.mem_univ i), others, own,
    ← Finset.add_sum_erase Finset.univ (fun j => weights.standing (net.instances j))
      (Finset.mem_univ i)]
  simp only [react, Multiset.map_add, Multiset.sum_add, weights_total]
  omega

/-- Every step lowers the measure. -/
theorem Step.rank_lt (step : Step platform net net') : net'.rank < net.rank := by
  cases step with
  | @deliver message received rest flying i env stack address channel parsed =>
    have reaction := reaction_lt received.mAction
    have action := mAction_of_unmarshall_marshall parsed
    have paid := exec_dispatch_standing weights (platform i) env received channel (net.instances i)
    have ranked := rank_react platform net rest i env (.dispatch received channel)
    rw [rank.eq_def net, flying, Multiset.map_cons, Multiset.sum_cons, ← action]
    omega
  | @lose message rest flying =>
    have charged : 0 < weights.charge message.mAction := by
      have reaction := reaction_lt message.mAction
      omega
    simp only [rank, flying, Multiset.map_cons, Multiset.sum_cons]
    omega
  | @expire i env k alive late =>
    have paid := exec_expire_standing weights (platform i) env alive late (by decide)
    have ranked := rank_react platform net net.inFlight i env (.expire k)
    rw [rank.eq_def net]
    omega

/-- A run of steps is no longer than the measure it starts with. -/
theorem length_le_rank {run : Nat → Traffic ι w} {n : Nat}
    (steps : ∀ k < n, Step platform (run k) (run (k + 1))) : n ≤ (run 0).rank := by
  have left : ∀ k ≤ n, (run k).rank + k ≤ (run 0).rank := by
    intro k
    induction k with
    | zero => exact fun _ => le_rfl
    | succ k ih =>
      intro within
      have lower := (steps k (by omega)).rank_lt
      have before := ih (by omega)
      omega
  have last := left n le_rfl
  omega

end Traffic

/-! ## What one message causes -/

section

variable {w : Nat} (p : Platform w) (env : Env w)

/-- Messages with some actions are counted, and pending deliveries are not. -/
def Tariff.count (counted : Action → Bool) : Tariff where
  charge action := if counted action then 1 else 0
  pending := 0

theorem Tariff.count_total (counted : Action → Bool) (messages : List (DialogMessage w)) :
    (Tariff.count counted).total messages =
      messages.countP fun message => counted message.mAction := by
  induction messages with
  | nil => rfl
  | cons message messages ih =>
    have first : (Tariff.count counted).total (message :: messages) =
        (if counted message.mAction then 1 else 0) + (Tariff.count counted).total messages := rfl
    rw [first, ih, List.countP_cons, Nat.add_comm]

/-- As many messages are transmitted on a message as its reaction has. -/
theorem exec_dispatch_countP (counted : Action → Bool) (message : DialogMessage w) (channel : Str)
    (s : Core w) :
    (transmitted s (exec p env (.dispatch message channel) s)).countP
        (fun sent => counted sent.mAction) ≤ (Tariff.count counted).reaction message.mAction := by
  have paid := exec_dispatch_standing (Tariff.count counted) p env message channel s
  have nothing : (Tariff.count counted).standing s = 0 := by
    simp [Tariff.standing, Tariff.count]
  rw [Tariff.count_total] at paid
  omega

/-- What an incoming message causes: nothing if it is an ACK or an ABORT, and otherwise at most one
ACK and one further message. -/
structure CausesLittle (message : DialogMessage w) (sent : List (DialogMessage w)) : Prop where
  silent : message.mAction = .ack ∨ message.mAction = .abort → sent = []
  acks : (sent.countP fun other => other.mAction == .ack) ≤ 1
  further : (sent.countP fun other => other.mAction != .ack) ≤ 1

theorem exec_dispatch_causesLittle (message : DialogMessage w) (channel : Str) (s : Core w) :
    CausesLittle message (transmitted s (exec p env (.dispatch message channel) s)) where
  silent := by
    intro quiet
    have none_ := exec_dispatch_countP p env (fun _ => true) message channel s
    have reaction : (Tariff.count fun _ => true).reaction message.mAction = 0 := by
      rcases quiet with action | action
      · rw [action]
        rfl
      · rw [action]
        rfl
    rw [reaction, Nat.le_zero, List.countP_eq_length.mpr (by simp)] at none_
    exact List.length_eq_zero_iff.mp none_
  acks := by
    apply (exec_dispatch_countP p env (· == .ack) message channel s).trans
    cases message.mAction <;> decide
  further := by
    apply (exec_dispatch_countP p env (· != .ack) message channel s).trans
    cases message.mAction <;> decide

end

/-- No message storm: among any number of instances in any states, with any messages in flight, every
delivery, loss and expiry lowers the measure, so that no run is longer than the measure it starts
with, and every message causes little. -/
theorem no_message_storm {ι : Type} [DecidableEq ι] [Fintype ι] {w : Nat}
    (platform : ι → Platform w) :
    (∀ net net' : Traffic ι w, Traffic.Step platform net net' → net'.rank < net.rank) ∧
    (∀ (run : Nat → Traffic ι w) (n : Nat),
      (∀ k < n, Traffic.Step platform (run k) (run (k + 1))) → n ≤ (run 0).rank) ∧
    ∀ (i : ι) (env : Env w) (message : DialogMessage w) (channel : Str) (s : Core w),
      CausesLittle message
        (transmitted s (exec (platform i) env (.dispatch message channel) s)) := by
  refine ⟨?_, ?_, ?_⟩
  · intro net net' step
    exact step.rank_lt
  · intro run n steps
    exact Traffic.length_le_rank steps
  · intro i env message channel s
    exact exec_dispatch_causesLittle (platform i) env message channel s

end SecureDialogues
