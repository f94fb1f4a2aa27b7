import SecureDialogues.Protocol.StepMoves

/-!
# What an incoming message changes

Exactly which messages change the dialogs, the message log, the session ciphers or the pending
deliveries: an ACK whose delivery callback returns, and a delivered message that a handler takes
up. The despatcher is `noexcept`, so that an exception ends the program and with it the message
log, the ciphers and the pending deliveries.
-/

namespace SecureDialogues

open Text Effect

section

variable {w : Nat}

/-- The dialogs, the message log, the session ciphers and the pending deliveries are as they
were, and the program runs if it ran. -/
structure Unaffected (s s' : Core w) : Prop where
  alive : s'.alive = s.alive
  dialogs : s'.mDialogStorage = s.mDialogStorage
  messages : s'.mMessageContainer = s.mMessageContainer
  ciphers : s'.mCiphers = s.mCiphers
  pending : s'.mRepo = s.mRepo

namespace Unaffected

variable {s s' s'' : Core w}

theorem refl (s : Core w) : Unaffected s s := ⟨rfl, rfl, rfl, rfl, rfl⟩

theorem trans (first : Unaffected s s') (second : Unaffected s' s'') : Unaffected s s'' :=
  ⟨second.alive.trans first.alive, second.dialogs.trans first.dialogs,
    second.messages.trans first.messages, second.ciphers.trans first.ciphers,
    second.pending.trans first.pending⟩

instance : Std.Refl (Unaffected (w := w)) := ⟨refl⟩

instance : IsTrans (Core w) Unaffected := ⟨fun _ _ _ => trans⟩

end Unaffected

theorem Noted.unaffected {s s' : Core w} (noted : Noted s s') : Unaffected s s' := by
  obtain ⟨notes, rfl, -⟩ := noted
  exact ⟨rfl, rfl, rfl, rfl, rfl⟩

variable (p : Platform w) (env : Env w)

/-! ## ACKs -/

/-- A callback leaves the pending deliveries alone, and one that throws has changed nothing. -/
theorem removed_cases (s : Core w) (handler : DeliveryHandler) :
    (∃ s', removed p handler s = (.ok (), s') ∧ s'.mRepo = s.mRepo) ∨
      ∃ e, removed p handler s = (.error (.thrown e), s) := by
  cases handler with
  | messageNotDeliveried owner number => exact .inl ⟨_, rfl, rfl⟩
  | dialogAction dialogId mNext mAbortNeed mAddress mChannel =>
    simp only [removed]
    cases found : s.mDialogStorage.find dialogId with
    | none =>
      rw [Eff.bind_error (wrapper_of_none p found)]
      exact .inr ⟨_, rfl⟩
    | some dialog =>
      rw [Eff.bind_ok (wrapper_of_some p found)]
      cases allowed : isStateTransitionAllowed dialog.mStatus mNext with
      | false =>
        obtain ⟨e, refused⟩ := setStatus_of_refused p allowed s
        rw [Eff.bind_error refused]
        exact .inr ⟨e, rfl⟩
      | true =>
        rw [Eff.bind_ok (setStatus_of_allowed p allowed s)]
        exact .inl ⟨_, rfl, rfl⟩

/-- An ACK of a pending delivery ends it, or throws what its callback throws; any other ACK changes
nothing. -/
theorem removeEntry_cases (s : Core w) (message : DialogMessage w) :
    s.mRepo[(message.mDialogId, message.mSequentialNumber)]? = none ∧
        (∃ b, removeEntry p (message.mDialogId, message.mSequentialNumber) s = (.ok b, s)) ∨
      (∃ stored, s.mRepo[(message.mDialogId, message.mSequentialNumber)]? = some stored) ∧
        ((removeEntry p (message.mDialogId, message.mSequentialNumber) s).2.mRepo =
            s.mRepo.erase (message.mDialogId, message.mSequentialNumber) ∨
          ∃ e, removeEntry p (message.mDialogId, message.mSequentialNumber) s =
            (.error (.thrown e), s)) := by
  rw [removeEntry, Eff.reads_bind]
  cases lookup : s.mRepo[(message.mDialogId, message.mSequentialNumber)]? with
  | none => exact .inl ⟨rfl, _, rfl⟩
  | some stored =>
    refine .inr ⟨⟨stored, rfl⟩, ?_⟩
    simp only
    rcases removed_cases p s stored.element with ⟨s', outcome, same⟩ | ⟨e, outcome⟩
    · rw [Eff.bind_ok outcome]
      left
      simp only [Eff.update_bind, Eff.pure_apply, same]
    · rw [Eff.bind_error outcome]
      exact .inr ⟨e, rfl⟩

/-! ## Control messages -/

/-- The stored counter of the message's dialog is the number of the message. -/
def NumberSaved (message : DialogMessage w) (v : View w) : Prop :=
  ∃ dialog, v.dialogs message.mDialogId = some dialog ∧
    dialog.mPeerSequental = message.mSequentialNumber

namespace NumberSaved

variable {p env} {start : Core w} {message : DialogMessage w} {channel : Str} {v v' : View w}

theorem congr (saved : NumberSaved message v) (dialogs : v'.dialogs = v.dialogs) :
    NumberSaved message v' := by
  rw [NumberSaved, dialogs]
  exact saved

/-- A dialog is written whose counter is the stored one or the number of the message. -/
theorem setDialog (saved : NumberSaved message v) {dialog : Dialog w}
    (number : (∃ before, v.dialogs dialog.mDialogId = some before ∧
        dialog.mPeerSequental = before.mPeerSequental) ∨
      dialog.mPeerSequental = message.mSequentialNumber) : NumberSaved message (v.setDialog dialog) := by
  obtain ⟨current, stored, same⟩ := saved
  rw [NumberSaved, View.setDialog_dialogs]
  by_cases named : dialog.mDialogId = message.mDialogId
  · rw [if_pos named]
    refine ⟨dialog, rfl, ?_⟩
    rcases number with ⟨before, found, kept⟩ | set
    · rw [named, stored] at found
      cases found
      exact kept.trans same
    · exact set
  · rw [if_neg named]
    exact ⟨current, stored, same⟩

/-- While the message is handled its dialog stays and keeps the number. -/
theorem move (saved : NumberSaved message v)
    (move : Move p env start (.dispatch message channel) v v') : NumberSaved message v' := by
  cases move with
  | note | strayAbort | addText | install | requestFailed | verifyKey | abortFailed | endText
  | timeoutFailed => exact saved.congr rfl
  | takeControl cause =>
    cases cause
    exact (saved.setDialog (.inr rfl)).congr rfl
  | createByPeer cause _ _ _ _ _ shape =>
    cases cause
    exact (saved.setDialog (.inr (by rw [shape]; rfl))).congr rfl
  | request _ _ stored => exact (saved.congr rfl).setDialog (.inl ⟨_, stored, rfl⟩)
  | skip _ stored => exact saved.setDialog (.inl ⟨_, stored, rfl⟩)
  | abort _ _ stored => exact (saved.congr rfl).setDialog (.inl ⟨_, stored, rfl⟩)
  | peerStatus _ _ _ _ _ _ _ _ _ _ _ _ stored =>
    exact saved.setDialog (.inl ⟨_, stored, rfl⟩)
  | removed _ _ _ _ stored =>
    refine NumberSaved.congr (v := v.setDialog _) ?_ rfl
    exact saved.setDialog (.inl ⟨_, stored, rfl⟩)
  | create cause | sendText cause | timeouted cause | remove cause => cases cause

theorem moves {s s' : Core w} (saved : NumberSaved message s.view)
    (moves : Moves p env start (.dispatch message channel) s s') : NumberSaved message s'.view :=
  moves.head_induction_on (motive := fun v _ => NumberSaved message v → NumberSaved message s'.view) id
    (fun step _ ih saved => ih (saved.move step)) saved

end NumberSaved

/-- The message asks for a new dialog and comes from a contact. -/
structure OpensDialog (s : Core w) (message : DialogMessage w) (channel : Str) : Prop where
  action : message.mAction = .createDialog
  unknown : s.mDialogStorage.find message.mDialogId = none
  known : ∃ contact rest,
    DialogActionHandler.contactsAt s.mContactStorage message.mAdress channel = contact :: rest

variable {p env} {start : Core w} {message : DialogMessage w} {channel : Str}

theorem sendMessage_dialogs (message : DialogMessage w) (channel : Str) (handler : DeliveryHandler)
    (s : Core w) :
    (sendMessage env message channel handler s).2.mDialogStorage = s.mDialogStorage := by
  rcases sendMessage_cases env message channel handler s with
    ⟨-, outcome⟩ | ⟨e, -, outcome⟩ | ⟨sign, wait, -, ⟨-, outcome⟩ | ⟨e, -, outcome⟩⟩
  all_goals simp [outcome, Core.record]

/-- Whatever becomes of the answer, the dialog is added. -/
theorem answerCreateDialog_saved {s : Core w} (contact : Contact)
    (unknown : s.mDialogStorage.find message.mDialogId = none) :
    NumberSaved message (DialogActionHandler.answerCreateDialog p env message contact s).2.view := by
  unfold DialogActionHandler.answerCreateDialog
  simp only
  generalize shape : (Dialog.ofPeer env.initSequental contact.id message.mDialogId
    message.mSequentialNumber .createRequest : Dialog w) = dialog
  have named : dialog.mDialogId = message.mDialogId := by rw [← shape]; rfl
  have number : dialog.mPeerSequental = message.mSequentialNumber := by rw [← shape]; rfl
  rw [← named] at unknown ⊢
  have found : (s.addDialog dialog).mDialogStorage.find dialog.mDialogId = some dialog :=
    DialogStorage.find_put_self dialog
  have saved : NumberSaved message (s.addDialog dialog).view := ⟨dialog, named ▸ found, number⟩
  rw [Eff.bind_ok (addDialog_of_new p (has_eq_false.mpr unknown)),
    Eff.bind_ok (wrapper_of_some p found)]
  obtain ⟨r, s', exported, step, ⟨⟨text, rfl⟩, -⟩ | ⟨⟨e, rfl⟩, -⟩⟩ :=
    generateAndExportKey_cases p env dialog.mDialogId contact.adress (s.addDialog dialog)
  · have allowed : isMessageActionAllowed dialog.mStatus .verifyKey = true := by rw [← shape]; rfl
    rw [Eff.bind_ok exported, Eff.bind_ok (makeMessage_of_allowed p env allowed contact text s')]
    refine saved.congr (congrArg DialogStorage.find ?_)
    rw [sendMessage_dialogs]
    exact step.frame.1
  · rw [Eff.bind_error exported]
    exact saved.congr (congrArg DialogStorage.find step.frame.1)

/-- A control message that is taken up leaves its number in the stored dialog. -/
theorem controlHandle_saved (control : DialogActionHandler.isItYouAction message.mAction = true)
    (delivered : Delivered p env start message channel) {s : Core w} (noted : Noted start s)
    (takes : IsFresh start message ∨ OpensDialog start message channel) :
    NumberSaved message (DialogActionHandler.handle p env message channel s).2.view := by
  have dialogs : s.mDialogStorage = start.mDialogStorage := noted.unaffected.dialogs
  rcases takes with ⟨dialog, found, fresh⟩ | ⟨action, unknown, contact, rest, known⟩
  · have taken : Taken start message dialog _ (takenState p message dialog s) :=
      noted.taken found fresh
    rw [controlHandle_of_fresh (dialogs ▸ found) fresh]
    have saved : NumberSaved message (takenState p message dialog s).view := ⟨_, taken.stored, rfl⟩
    exact saved.moves (takenControl_does rfl control delivered taken).1
  · have unknown' : s.mDialogStorage.find message.mDialogId = none := dialogs ▸ unknown
    obtain ⟨moves, mayAbort⟩ := prepareNotFoundDialog_does rfl delivered noted unknown'
    have saved : NumberSaved message
        (DialogActionHandler.prepareNotFoundDialog p env message channel s).2.view := by
      have contacts : s.mContactStorage = start.mContactStorage := by
        obtain ⟨notes, rfl, -⟩ := noted
        rfl
      rw [DialogActionHandler.prepareNotFoundDialog, if_neg (by simp [action]), if_pos action,
        Eff.reads_bind, contacts, known]
      exact answerCreateDialog_saved contact unknown'
    rw [controlHandle_of_unknown unknown']
    rcases outcome : DialogActionHandler.prepareNotFoundDialog p env message channel s with
      ⟨(e | _) | _, s'⟩
    · rw [outcome] at moves mayAbort saved
      rw [Eff.catching_thrown outcome]
      have aborts : AbortCause p env start (.dispatch message channel) s'.view message.mDialogId := by
        refine .control rfl control delivered (fun present => ?_) fun verifyKey => ?_
        · rw [has_eq_false.mpr unknown] at present
          cases present
        · rw [action] at verifyKey
          cases verifyKey
      have grown : start.log.length ≤ s'.log.length := noted.grown.trans (Moves.length_le moves)
      exact saved.moves (prepareHandleException_does aborts (mayAbort e rfl) grown).1
    · rw [outcome] at saved
      rw [Eff.catching, outcome]
      exact saved
    · rw [outcome] at saved
      rw [Eff.catching_ok outcome]
      exact saved

theorem sendAndForget_unaffected (message : DialogMessage w) (channel : Str) (s : Core w) :
    Eff.Does Unaffected (sendAndForget env message channel) s fun r _ =>
      r ≠ .error .terminated := by
  obtain ⟨events, same⟩ := sendAndForget_log env message channel s
  refine ⟨same ▸ ⟨rfl, rfl, rfl, rfl, rfl⟩, ?_⟩
  rcases sendAndForget_outcome env message channel s with ⟨-, e, thrown⟩ | ⟨-, returned⟩
  · simp [thrown]
  · simp [returned]

theorem notify_unaffected (severity : Severity) (text : Str) (s : Core w) :
    Eff.Does Unaffected (notify severity text) s fun r _ => r = .ok () :=
  Eff.Does.update ⟨rfl, rfl, rfl, rfl, rfl⟩ rfl

variable (p env) in
/-- A control message that is not taken up is answered at most. -/
theorem controlHandle_unaffected {s : Core w} (old : ¬ IsFresh s message)
    (noDialog : ¬ OpensDialog s message channel) :
    Eff.Does Unaffected (DialogActionHandler.handle p env message channel) s fun r _ =>
      r = .ok () := by
  cases stored : s.mDialogStorage.find message.mDialogId with
  | some dialog =>
    rw [Eff.Does, controlHandle_of_old stored fun fresh => old ⟨dialog, stored, fresh⟩]
    exact ⟨.refl s, rfl⟩
  | none =>
    have body : Eff.Does Unaffected
        (DialogActionHandler.prepareNotFoundDialog p env message channel) s fun r _ =>
          r ≠ .error .terminated := by
      unfold DialogActionHandler.prepareNotFoundDialog
      by_cases abort : message.mAction = .abort
      · rw [if_pos abort]
        exact .pure (by simp)
      rw [if_neg abort]
      by_cases action : message.mAction = .createDialog
      swap
      · rw [if_neg action]
        exact sendAndForget_unaffected _ _ s
      rw [if_pos action, Eff.Does, Eff.reads_bind]
      cases known : DialogActionHandler.contactsAt s.mContactStorage message.mAdress channel with
      | cons contact rest => exact absurd ⟨action, stored, contact, rest, known⟩ noDialog
      | nil =>
        exact (notify_unaffected _ _ s).bind (fun _ s' _ _ => sendAndForget_unaffected _ _ s')
          fun _ _ _ fault => absurd fault (by simp)
    refine Eff.Does.congr ?_ (controlHandle_of_unknown stored)
    refine body.catching (fun _ s' same _ => ?_) (fun _ _ _ _ => rfl)
      fun _ _ terminated => absurd rfl terminated
    refine Eff.Does.catching (Q := fun r _ => r ≠ .error .terminated) ?_
      (fun _ _ _ _ => .pure rfl) (fun _ _ _ _ => rfl)
      fun _ _ terminated => absurd rfl terminated
    have missing : s'.mDialogStorage.has message.mDialogId = false := by
      rw [same.dialogs]
      exact has_eq_false.mpr stored
    rw [Eff.Does, Eff.reads_bind, if_neg (by simp [missing])]
    exact sendAndForget_unaffected _ _ s'

/-! ## Texts -/

/-- The message log only got system messages. -/
def AddsSystem (s s' : Core w) : Prop := ∀ dialogId, ∃ added,
  s'.mMessageContainer.messagesOf dialogId = s.mMessageContainer.messagesOf dialogId ++ added ∧
    ∀ message ∈ added, message.mType = .system

namespace AddsSystem

theorem of_same {s s' : Core w} (same : s'.mMessageContainer = s.mMessageContainer) :
    AddsSystem s s' := fun dialogId => ⟨[], by simp [same], by simp⟩

theorem trans {s s' s'' : Core w} (first : AddsSystem s s') (second : AddsSystem s' s'') :
    AddsSystem s s'' := by
  intro dialogId
  obtain ⟨added, log, system⟩ := first dialogId
  obtain ⟨added', log', system'⟩ := second dialogId
  refine ⟨added ++ added', by rw [log', log, List.append_assoc], fun message member => ?_⟩
  exact (List.mem_append.mp member).elim (system message) (system' message)

instance : Std.Refl (AddsSystem (w := w)) := ⟨fun _ => of_same rfl⟩

instance : IsTrans (Core w) AddsSystem := ⟨fun _ _ _ => trans⟩

theorem addMessage {s s' : Core w} {dialogId : Str} {message : UserMessage}
    (added : s'.mMessageContainer = s.mMessageContainer.addMessage dialogId message)
    (system : message.mType = .system) : AddsSystem s s' := by
  intro other
  refine ⟨if dialogId = other then [message] else [], ?_, ?_⟩
  · rw [added, MessageContainer.messagesOf_addMessage]
  · intro shown member
    split at member
    · rw [List.mem_singleton] at member
      exact member ▸ system
    · cases member

theorem saveDialog (p : Platform w) (s : Core w) (dialog : Dialog w) :
    AddsSystem s (s.saveDialog p dialog) := by
  by_cases ended : dialog.mStatus.isEnded = true
  · refine addMessage (by rw [Core.saveDialog, MessageContainer.dialogChanged, if_pos ended]) rfl
  · exact of_same (by rw [Core.saveDialog, MessageContainer.dialogChanged, if_neg ended])

end AddsSystem

theorem sendAndForget_addsSystem (message : DialogMessage w) (channel : Str) (s : Core w) :
    Eff.Does AddsSystem (sendAndForget env message channel) s fun _ _ => True :=
  ⟨.of_same (sendAndForget_unaffected message channel s).1.messages, trivial⟩

theorem abortStored_addsSystem (s : Core w) :
    Eff.Does AddsSystem (MessageActionHandler.abortStored p env message channel) s
      fun _ _ => True := by
  have same : AddsSystem s s := .of_same rfl
  unfold MessageActionHandler.abortStored
  cases found : s.mDialogStorage.find message.mDialogId with
  | none =>
    rw [Eff.Does, Eff.bind_error (wrapper_of_none p found)]
    exact ⟨same, trivial⟩
  | some dialog =>
    rw [Eff.Does, Eff.bind_ok (wrapper_of_some p found)]
    cases contactFound : s.mContactStorage[dialog.mContactId]? with
    | none =>
      rw [Eff.bind_error (getContact_of_none p contactFound)]
      exact ⟨same, trivial⟩
    | some contact =>
      rw [Eff.bind_ok (getContact_of_some p contactFound)]
      cases allowed : isStateTransitionAllowed dialog.makeNextSequental.mStatus .aborted with
      | false =>
        obtain ⟨e, refused⟩ := setStatus_of_refused p allowed s
        rw [Eff.bind_error refused]
        exact ⟨same, trivial⟩
      | true =>
        rw [Eff.bind_ok (setStatus_of_allowed p allowed s)]
        refine (sendAndForget_addsSystem _ _ s).bind (P := fun _ _ => True)
          (fun _ s' _ _ => ⟨.saveDialog p s' _, trivial⟩) fun _ _ _ _ => trivial

/-- `abortOnException` tells the user, and adds no text. -/
theorem abortOnException_adds (s : Core w) :
    AddsSystem s (MessageActionHandler.abortOnException p env message channel s).2 ∧
      (MessageActionHandler.abortOnException p env message channel s).2.mMessageContainer.messagesOf
        message.mDialogId ≠ s.mMessageContainer.messagesOf message.mDialogId := by
  unfold MessageActionHandler.abortOnException
  generalize noticed : ({
    mStatus := .error
    mType := .system
    mContent := p.text "Error occured during message handling from user \x7b\x7d. Dialog removed."
      [message.mAdress] } : UserMessage) = notice
  generalize state : ({ s with
    mMessageContainer := s.mMessageContainer.addMessage message.mDialogId notice } : Core w) = s₁
  have told : AddsSystem s s₁ := .addMessage (by rw [← state]) (by rw [← noticed])
  have rest : Eff.Does AddsSystem (do
      let dialogs ← Eff.reads (·.mDialogStorage)
      if dialogs.has message.mDialogId = true then
        MessageActionHandler.abortStored p env message channel
      else sendAndForget env (strayAbort env message) channel : M w Unit) s₁ fun _ _ => True := by
    rw [Eff.Does, Eff.reads_bind]
    split
    · exact abortStored_addsSystem s₁
    · exact sendAndForget_addsSystem _ _ s₁
  obtain ⟨caught, -⟩ : Eff.Does AddsSystem (Eff.catching _ fun _ => pure ()) s₁ fun _ _ => True :=
    rest.catching (fun _ _ _ _ => .pure trivial) (fun _ _ _ _ => trivial) fun _ _ _ => trivial
  rw [Eff.catching_congr (by rw [addMessage, Eff.update_bind, state])]
  refine ⟨told.trans caught, fun same => ?_⟩
  obtain ⟨added, log, -⟩ := caught message.mDialogId
  rw [← state, MessageContainer.messagesOf_addMessage, if_pos rfl] at log
  rw [state] at log
  have length := congrArg List.length (log.symm.trans same)
  simp at length

/-- The texts that the message log shows as received in a dialog. -/
def incomingTexts (s : Core w) (dialogId : Str) : List Str :=
  ((s.mMessageContainer.messagesOf dialogId).filter (·.mType = .incoming)).map (·.mContent)

theorem AddsSystem.incomingTexts {s s' : Core w} (adds : AddsSystem s s') (dialogId : Str) :
    incomingTexts s' dialogId = SecureDialogues.incomingTexts s dialogId := by
  obtain ⟨added, log, system⟩ := adds dialogId
  have none : added.filter (·.mType = .incoming) = [] := by
    rw [List.filter_eq_nil_iff]
    intro message member
    simp [system message member]
  rw [SecureDialogues.incomingTexts, log, List.filter_append, none, List.append_nil]
  rfl

theorem incomingTexts_textState (s : Core w) (text dialogId : Str) :
    incomingTexts (textState message text s) dialogId =
      incomingTexts s dialogId ++ if message.mDialogId = dialogId then [text] else [] := by
  simp only [incomingTexts, textState, Core.record, MessageContainer.addText,
    MessageContainer.messagesOf_addMessage, MessageContainer.textMessage]
  split <;> simp

/-- A fresh text is shown, or the user hears that it cannot be read. -/
theorem textHandle_messages {s : Core w} (fresh : IsFresh s message) :
    (MessageActionHandler.handle p env message channel s).2.mMessageContainer.messagesOf
      message.mDialogId ≠ s.mMessageContainer.messagesOf message.mDialogId := by
  obtain ⟨dialog, found, newer⟩ := fresh
  cases read : decryptMessageBody p s.mCiphers message.mDialogId message.mContent with
  | error e =>
    rw [textHandle_of_unread found newer read]
    exact (abortOnException_adds s).2
  | ok text =>
    rw [textHandle_of_read found newer read]
    simp [textState, Core.record, MessageContainer.addText, MessageContainer.messagesOf_addMessage]

/-- A text of a dialog that is not stored is answered with an ABORT; the user hears of a failure
to do so. -/
theorem textHandle_unknown {s : Core w} (unknown : s.mDialogStorage.find message.mDialogId = none) :
    ForgettingFails env (s.record (noDialogNotice p message)) (strayAbort env message) channel ∧
        (MessageActionHandler.handle p env message channel s).2.mMessageContainer.messagesOf
          message.mDialogId ≠ s.mMessageContainer.messagesOf message.mDialogId ∧
        AddsSystem s (MessageActionHandler.handle p env message channel s).2 ∨
      ¬ ForgettingFails env (s.record (noDialogNotice p message)) (strayAbort env message) channel ∧
        Eff.Does Unaffected (MessageActionHandler.handle p env message channel) s fun r _ =>
          r = .ok () := by
  rw [Eff.Does, textHandle_of_unknown unknown]
  have noted : Unaffected s (s.record (noDialogNotice p message)) := ⟨rfl, rfl, rfl, rfl, rfl⟩
  have sent : Unaffected s (sendAndForget env (strayAbort env message) channel
      (s.record (noDialogNotice p message))).2 :=
    noted.trans (sendAndForget_unaffected _ _ _).1
  rcases sendAndForget_outcome env (strayAbort env message) channel
      (s.record (noDialogNotice p message)) with ⟨fails, e, thrown⟩ | ⟨succeeds, returned⟩
  · left
    rw [Eff.catching_thrown (Prod.ext thrown rfl)]
    refine ⟨fails, ?_, .trans (.of_same sent.messages) (abortOnException_adds _).1⟩
    rw [← sent.messages]
    exact (abortOnException_adds _).2
  · right
    rw [Eff.catching_ok (Prod.ext returned rfl)]
    exact ⟨succeeds, sent, rfl⟩

/-! ## The despatcher -/

/-- The ACK that `sendAck` hands over, if one is due and can be signed. -/
def ackEvents (env : Env w) (s : Core w) (message : DialogMessage w) (channel : Str) :
    List (Event w) :=
  if message.mAction ≠ .abort ∧ 0 < message.mSequentialNumber ∧ channel ∈ s.mChannels then
    match env.createSign s.log (marshall (makeAck env.getTimestamp message)) with
    | .ok sign => [.handed channel ((makeAck env.getTimestamp message).setSignature sign) true]
    | .error _ => []
  else []

/-- The state in which the handlers find an instance. -/
def ackedState (env : Env w) (s : Core w) (message : DialogMessage w) (channel : Str) : Core w :=
  { s with log := s.log ++ ackEvents env s message channel }

theorem sendAck_of_acknowledges {s : Core w}
    (acknowledges : Acknowledges env s message channel) :
    sendAck env message channel s = (.ok (), ackedState env s message channel) := by
  unfold sendAck ackedState ackEvents
  rw [Eff.reads_bind]
  by_cases due : message.mAction ≠ .abort ∧ 0 < message.mSequentialNumber ∧ channel ∈ s.mChannels
  swap
  · rw [if_neg due, if_neg due, List.append_nil]
    rfl
  rw [if_pos due, if_pos due]
  rw [Acknowledges, or_iff_right due.1, or_iff_right (not_not.mpr due.2.1),
    or_iff_right (not_not.mpr due.2.2)] at acknowledges
  obtain ⟨sign, signed, sent⟩ := acknowledges
  rw [sendAndForget_of_connected signed due.2.2, channelSendMessage_eq, sent, signed]
  rfl

theorem ackEvents_notes (env : Env w) (s : Core w) (message : DialogMessage w) (channel : Str) :
    ∀ event ∈ ackEvents env s message channel, event.isNote = true := by
  intro event member
  unfold ackEvents at member
  split at member
  · split at member
    · rw [List.mem_singleton] at member
      rw [member]
      rfl
    · cases member
  · cases member

theorem ackedState_noted (env : Env w) (s : Core w) (message : DialogMessage w) (channel : Str) :
    Noted s (ackedState env s message channel) :=
  ⟨_, rfl, ackEvents_notes env s message channel⟩

/-- The error sink keeps the contacts that were discovered, and nothing else. -/
theorem despatchError_unaffected (error : DespatchError) (message : DialogMessage w)
    (channel : Str) (s : Core w) :
    Eff.Does Unaffected (despatchError p env error message channel) s fun _ _ => True := by
  refine ⟨?_, trivial⟩
  cases error <;> try exact .refl s
  simp only [despatchError]
  split
  swap
  · exact .refl s
  rw [Eff.readsOr_bind]
  cases DiscoverContactAgent.getNameAndPublickKey p message.mContent with
  | error e => exact .refl s
  | ok parts =>
    simp only [Eff.reads_bind]
    split
    · exact .refl s
    · exact ⟨rfl, rfl, rfl, rfl, rfl⟩

theorem isSignatureValid_of_ok {s : Core w} (valid : isSignatureOk p s.mRemote message = .ok true) :
    isSignatureValid p env message channel s = (.ok true, s) := by
  rw [isSignatureValid, Eff.noexcept, Eff.reads_bind, valid]
  rfl

/-- A message whose signature is not found valid. -/
theorem isSignatureValid_of_not_ok {s : Core w}
    (invalid : isSignatureOk p s.mRemote message ≠ .ok true) :
    Eff.Does Unaffected (isSignatureValid p env message channel) s fun r _ => r ≠ .ok true := by
  have faults : ∀ error, Eff.Does Unaffected (Eff.noexcept do
      despatchError p env error message channel
      pure false) s fun r _ => r ≠ .ok true := by
    intro error
    have same : Unaffected s (despatchError p env error message channel s).2 :=
      (despatchError_unaffected error message channel s).1
    rw [Eff.Does, Eff.noexcept, Eff.bind_apply]
    rcases outcome : despatchError p env error message channel s with ⟨(_ | _) | _, s'⟩
    all_goals
      rw [outcome] at same
      exact ⟨same, by simp⟩
  unfold isSignatureValid
  cases checked : isSignatureOk p s.mRemote message with
  | ok valid =>
    rw [Eff.Does, Eff.noexcept, Eff.reads_bind, checked]
    exact ⟨.refl s, fun same => invalid (checked.trans (by cases same; rfl))⟩
  | error e =>
    by_cases unknown : e.kind = .rangeError
    · refine (faults .contactNotFound).congr (Eff.noexcept_congr ?_)
      rw [Eff.reads_bind, checked]
      simp only [if_pos unknown]
    · refine (faults .exceptionThrown).congr (Eff.noexcept_congr ?_)
      rw [Eff.reads_bind, checked]
      simp only [if_neg unknown]

/-- The handlers get a message that is delivered. -/
theorem dispatchMessage_of_delivered {s : Core w} (delivered : Delivered p env s message channel) :
    dispatchMessage p env message channel s =
      runHandlers p env message channel (ackedState env s message channel) := by
  have valid : isSignatureOk p (ackedState env s message channel).mRemote message = .ok true :=
    delivered.signatureOk
  rw [dispatchMessage, Eff.bind_ok (sendAck_of_acknowledges delivered.acknowledges),
    Eff.bind_ok (isSignatureValid_of_ok valid), if_neg (by simp), if_neg delivered.recent]

/-- A message that is acknowledged and signed, and still not delivered, is too old. -/
theorem isExpired_of_not_delivered {s s' : Core w}
    (refused : ¬ Delivered p env s message channel) (noted : Noted s s')
    (acknowledges : Acknowledges env s message channel)
    (valid : isSignatureOk p s'.mRemote message = .ok true) : isExpired env message := by
  have remote : s'.mRemote = s.mRemote := by
    obtain ⟨notes, rfl, -⟩ := noted
    rfl
  by_contra recent
  exact refused ⟨acknowledges, remote ▸ valid, recent⟩

/-- A message that is not delivered changes nothing. -/
theorem dispatchMessage_of_not_delivered {s : Core w}
    (refused : ¬ Delivered p env s message channel) :
    Unaffected s (dispatchMessage p env message channel s).2 := by
  obtain ⟨s', noted, ⟨acknowledges, outcome⟩ | ⟨-, e, outcome⟩⟩ :=
    sendAck_cases env message channel s
  swap
  · rw [dispatchMessage, Eff.bind_error outcome]
    exact noted.unaffected
  rw [dispatchMessage, Eff.bind_ok outcome]
  apply noted.unaffected.trans
  by_cases valid : isSignatureOk p s'.mRemote message = .ok true
  · have expired := isExpired_of_not_delivered refused noted acknowledges valid
    rw [Eff.bind_ok (isSignatureValid_of_ok valid), if_neg (by simp), if_pos expired]
    exact (despatchError_unaffected _ _ _ s').1
  · refine (Eff.Does.bind (P := fun _ _ => True) (isSignatureValid_of_not_ok valid)
      (fun valid s'' _ outcome => ?_) fun _ _ _ _ => trivial).1
    cases valid with
    | true => exact absurd rfl outcome
    | false =>
      rw [if_pos rfl]
      exact despatchError_unaffected _ _ _ s''

theorem runHandlers_of_message (action : message.mAction = .message) (s : Core w) :
    runHandlers p env message channel s = MessageActionHandler.handle p env message channel s := by
  rw [runHandlers, if_pos (by rw [action]; rfl), Eff.bind_apply,
    if_neg (by rw [action]; exact Bool.false_ne_true)]
  rcases MessageActionHandler.handle p env message channel s with ⟨_ | _, s'⟩ <;> rfl

theorem runHandlers_of_control (control : DialogActionHandler.isItYouAction message.mAction = true)
    (s : Core w) : runHandlers p env message channel s =
      DialogActionHandler.handle p env message channel s := by
  have noText : ¬ MessageActionHandler.isItYouAction message.mAction = true := by
    intro text
    cases action : message.mAction <;> rw [action] at control text <;> cases control <;> cases text
  rw [runHandlers, if_neg noText]
  simp only [if_pos control]

theorem runHandlers_of_neither (noText : message.mAction ≠ .message)
    (noControl : ¬ DialogActionHandler.isItYouAction message.mAction = true) (s : Core w) :
    runHandlers p env message channel s = (.ok (), s) := by
  rw [runHandlers, if_neg (by simpa [MessageActionHandler.isItYouAction] using noText)]
  simp only [if_neg noControl, Eff.pure_apply]

theorem dispatch_of_ack (action : message.mAction = .ack) (s : Core w) :
    (dispatch p env message channel s).2 =
      (removeEntry p (message.mDialogId, message.mSequentialNumber) s).2 := by
  rw [dispatch, Eff.noexcept_state, if_pos action, Eff.bind_apply]
  rcases removeEntry p (message.mDialogId, message.mSequentialNumber) s with ⟨_ | _, s'⟩ <;> rfl

theorem dispatch_of_other (action : message.mAction ≠ .ack) (s : Core w) :
    (dispatch p env message channel s).2 = (dispatchMessage p env message channel s).2 := by
  rw [dispatch, Eff.noexcept_state, if_neg action]

/-- The handlers hear of messages with these actions. -/
def IsHandled (action : Action) : Prop :=
  action = .message ∨ DialogActionHandler.isItYouAction action = true

variable (p env) in
/-- A handler takes the message up: it is fresh, it opens a dialog, or it is a text that cannot be
answered. -/
inductive TakesHold (s : Core w) (message : DialogMessage w) (channel : Str) : Prop
  | fresh (handled : IsHandled message.mAction) (fresh : IsFresh s message)
  | opens (opens : OpensDialog s message channel)
  | unanswered (action : message.mAction = .message)
    (unknown : s.mDialogStorage.find message.mDialogId = none)
    (fails : ForgettingFails env
      ((ackedState env s message channel).record (noDialogNotice p message))
      (strayAbort env message) channel)

/-- What a message that is taken up changes: the counter of its dialog, or the message log. -/
theorem runHandlers_takes {s : Core w} (delivered : Delivered p env s message channel)
    (takes : TakesHold p env s message channel) :
    ¬ NumberSaved message s.view ∧
        NumberSaved message
          (runHandlers p env message channel (ackedState env s message channel)).2.view ∨
      (runHandlers p env message channel
          (ackedState env s message channel)).2.mMessageContainer.messagesOf message.mDialogId ≠
        s.mMessageContainer.messagesOf message.mDialogId := by
  have noted := ackedState_noted env s message channel
  cases takes with
  | fresh handled fresh =>
    rcases handled with text | control
    · rw [runHandlers_of_message text]
      exact .inr (textHandle_messages (s := ackedState env s message channel) fresh)
    · rw [runHandlers_of_control control]
      refine .inl ⟨?_, controlHandle_saved control delivered noted (.inl fresh)⟩
      rintro ⟨dialog, stored, same⟩
      obtain ⟨other, found, newer⟩ := fresh
      obtain rfl : dialog = other := Option.some.inj (stored.symm.trans found)
      rw [same] at newer
      exact absurd newer (by simp)
  | opens opens =>
    have control : DialogActionHandler.isItYouAction message.mAction = true := by
      rw [opens.action]
      rfl
    rw [runHandlers_of_control control]
    refine .inl ⟨?_, controlHandle_saved control delivered noted (.inr opens)⟩
    rintro ⟨dialog, stored, -⟩
    rw [Core.view_dialogs, opens.unknown] at stored
    cases stored
  | unanswered action unknown fails =>
    rw [runHandlers_of_message action]
    rcases textHandle_unknown (s := ackedState env s message channel) unknown with
      ⟨-, changed, -⟩ | ⟨succeeds, -⟩
    · exact .inr changed
    · exact absurd fails succeeds

/-- A message that no handler takes up changes nothing. -/
theorem runHandlers_unaffected {s : Core w} (ignored : ¬ TakesHold p env s message channel) :
    Unaffected s (runHandlers p env message channel (ackedState env s message channel)).2 ∧
      (runHandlers p env message channel (ackedState env s message channel)).1 = .ok () := by
  have same : Unaffected s (ackedState env s message channel) :=
    (ackedState_noted env s message channel).unaffected
  by_cases text : message.mAction = .message
  · rw [runHandlers_of_message text]
    cases found : s.mDialogStorage.find message.mDialogId with
    | none =>
      rcases textHandle_unknown (s := ackedState env s message channel) found with
        ⟨fails, -⟩ | ⟨-, unaffected, returned⟩
      · exact absurd (.unanswered text found fails) ignored
      · exact ⟨same.trans unaffected, returned⟩
    | some dialog =>
      have old : ¬ dialog.mPeerSequental < message.mSequentialNumber := fun newer =>
        ignored (.fresh (.inl text) ⟨dialog, found, newer⟩)
      rw [textHandle_of_old (s := ackedState env s message channel) found old]
      exact ⟨same, rfl⟩
  by_cases control : DialogActionHandler.isItYouAction message.mAction = true
  · rw [runHandlers_of_control control]
    obtain ⟨unaffected, returned⟩ := controlHandle_unaffected p env
      (s := ackedState env s message channel)
      (fun fresh => ignored (.fresh (.inr control) fresh))
      fun opens => ignored (.opens ⟨opens.action, opens.unknown, opens.known⟩)
    exact ⟨same.trans unaffected, returned⟩
  · rw [runHandlers_of_neither text control]
    exact ⟨same, rfl⟩

variable (p env message channel) in
/-- A step of the running program is what the despatcher does, but for the end of the program. -/
theorem exec_dispatch_eq {s : Core w} (alive : s.alive = true) :
    ∃ running s', (dispatch p env message channel s).2 = s' ∧
      exec p env (.dispatch message channel) s = { s' with alive := running } := by
  obtain ⟨running, stepped⟩ := exec_of_alive p env (.dispatch message channel) alive
  exact ⟨running, _, rfl, stepped⟩

theorem exec_dispatch_messages {s : Core w} (alive : s.alive = true) :
    (exec p env (.dispatch message channel) s).mMessageContainer =
      (dispatch p env message channel s).2.mMessageContainer := by
  obtain ⟨running, s', rfl, stepped⟩ := exec_dispatch_eq p env message channel alive
  rw [stepped]

end

end SecureDialogues
