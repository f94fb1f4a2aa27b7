import SecureDialogues.Crypto.KeyInstallation
import SecureDialogues.Protocol.FailedOperations

/-!
# Control messages of stored dialogs

What `DialogActionHandler::handle` does to a stored dialog for every status, action, content and
fresh number. A CREATE_DIALOG is not among the actions `map` knows, and `sendAndForget` transmits
nothing over a channel that is not connected.
-/

namespace SecureDialogues

open Text Effect

section

variable {w : Nat} (p : Platform w) (env : Env w) (message : DialogMessage w) (channel : Str)
  (dialog : Dialog w) (contact : Contact)

/-! ## Statements -/

/-- The status that an action asks for. -/
def calledFor : Action → Option Status
  | .acceptDialog => some .active
  | .closeDialog => some .closed
  | .abort => some .aborted
  | _ => none

/-- An ABORT of the dialog was transmitted to its contact from one state to the other. -/
def AbortSent (s s' : Core w) : Prop :=
  ∃ contact abort, s.mContactStorage[dialog.mContactId]? = some contact ∧
    .handed contact.channelMoniker abort true ∈ s'.log.drop s.log.length ∧
    abort.mAction = .abort ∧ abort.mDialogId = dialog.mDialogId ∧ abort.mAdress = contact.adress

/-- The dialog ends in the status asked for, in its own one, or aborted with an ABORT sent. -/
def Concludes (s s' : Core w) : Prop :=
  ∃ dialog', s'.mDialogStorage.find message.mDialogId = some dialog' ∧
    ((calledFor message.mAction = some dialog'.mStatus ∧
        isStateTransitionAllowed dialog.mStatus dialog'.mStatus = true) ∨
      dialog'.mStatus = dialog.mStatus ∨
      dialog'.mStatus = .aborted ∧ AbortSent dialog s s')

/-- The handler comes to the assertion of `map`, which stops a build with assertions. -/
def ReachesAssert (s : Core w) : Prop :=
  (DialogActionHandler.handle { p with ndebug := false } env message channel s).1 =
    .error .terminated

/-- The message is one for a stored dialog with a fresh number. -/
structure IsTaken (s : Core w) : Prop where
  found : s.mDialogStorage.find message.mDialogId = some dialog
  control : DialogActionHandler.isItYouAction message.mAction = true
  fresh : dialog.mPeerSequental < message.mSequentialNumber

/-- The handler copes with the message, whatever dialog it is for. -/
def ControlIsTotal (s : Core w) : Prop :=
  ∀ dialog, IsTaken message dialog s → ¬ ReachesAssert p env message channel s ∧
    Concludes message dialog s (DialogActionHandler.handle p env message channel s).2

/-- The ABORT that the handler sends for a dialog. -/
def abortMessage : DialogMessage w :=
  makeAbort env.getTimestamp dialog.mDialogId contact.adress (dialog.mThisSequental + 1)

/-- The dialog can be aborted, and its ABORT is signed for a channel that is not connected. -/
def AbortsSilently (s : Core w) : Prop :=
  dialog.mStatus.isEnded = false ∧ contact.channelMoniker ∉ s.mChannels ∧
    ∃ sign, env.createSign s.log (marshall (abortMessage env dialog contact)) = .ok sign

/-- The step that the message asks for is refused: by the state machine, or by the cipher. -/
def StepRefused (s : Core w) : Prop :=
  match message.mAction with
  | .acceptDialog => isStateTransitionAllowed dialog.mStatus .active = false
  | .closeDialog => isStateTransitionAllowed dialog.mStatus .closed = false
  | .verifyKey => ImportsKey p s message → dialog.mStatus ≠ .waitConfirm
  | .keyVerification =>
    checkVerificationString p s.mCiphers message.mDialogId message.mContent = .ok true →
      dialog.mStatus ≠ .waitKeyVerificaion
  | _ => False

/-- The state in which a refused step aborts the dialog: `importKey` leaves the cipher it read. -/
def refusedState (s : Core w) : Core w :=
  if message.mAction = .verifyKey then
    match createSymmetricalCipherFrom p (splitKeyText message.mContent).1 with
    | .ok cipher => s.emplaceCipher message.mDialogId { cipher, myString := [] }
    | .error _ => s
  else s

/-- The message is no CREATE_DIALOG, and a dialog that it aborts is not aborted silently. A dialog
of a contact that is not stored only keeps its status. -/
def IsAnswerable (s : Core w) : Prop :=
  ∀ dialog, IsTaken message dialog s →
    ∀ contact, s.mContactStorage[dialog.mContactId]? = some contact →
      message.mAction ≠ .createDialog ∧
        (StepRefused p message dialog s → ¬ AbortsSilently env dialog contact
          (refusedState p message (takenState p message dialog s)))

/-! ## The abort -/

section

variable {message dialog contact}

/-- Nothing is transmitted by these events. -/
def Untransmitted (events : List (Event w)) : Prop :=
  ∀ channelName carried, Event.handed channelName carried true ∉ events

/-- Aborting a stored dialog of a stored contact: silently, not at all because it has ended, with
an ABORT, or in vain because of an exception. -/
theorem abortDialog_outcome {dialogId : Str} {t : Core w}
    (found : t.mDialogStorage.find dialogId = some dialog)
    (known : t.mContactStorage[dialog.mContactId]? = some contact) :
    (AbortsSilently env dialog contact t ∧
      DialogActionHandler.abortDialog p env dialogId t =
        (.ok (), t.saveDialog p (dialog.makeNextSequental.withStatus .aborted))) ∨
    ¬ AbortsSilently env dialog contact t ∧
      (DialogActionHandler.abortDialog p env dialogId t = (.ok (), t) ∨
      (∃ sign, DialogActionHandler.abortDialog p env dialogId t =
        (.ok (), (t.record (.handed contact.channelMoniker
          ((abortMessage env dialog contact).setSignature sign) true)).saveDialog p
            (dialog.makeNextSequental.withStatus .aborted))) ∨
      ∃ e events, DialogActionHandler.abortDialog p env dialogId t =
          (.error (.thrown e), { t with log := t.log ++ events }) ∧
        Untransmitted events ∧
        ¬ AbortsSilently env dialog contact { t with log := t.log ++ events }) := by
  unfold DialogActionHandler.abortDialog
  rw [Eff.bind_ok (wrapper_of_some p found), Eff.bind_ok (getContact_of_some p known)]
  cases ended : dialog.mStatus.isEnded with
  | true =>
    rw [if_neg (by rw [isMessageActionAllowed_abort, ended]; simp)]
    refine .inr ⟨fun silent => ?_, .inl rfl⟩
    rw [silent.1] at ended
    cases ended
  | false =>
    rw [if_pos (by rw [isMessageActionAllowed_abort, ended]; rfl)]
    have closing : ∀ s, setStatus p dialog.makeNextSequental .aborted s =
        (.ok (dialog.makeNextSequental.withStatus .aborted), s) := setAborted_of_open p ended
    have here : makeAbort env.getTimestamp dialog.makeNextSequental.mDialogId contact.adress
        dialog.makeNextSequental.mThisSequental = abortMessage env dialog contact := rfl
    simp only [here]
    cases signed : env.createSign t.log (marshall (abortMessage env dialog contact)) with
    | error e =>
      have unsigned : ¬ AbortsSilently env dialog contact t := by
        intro silent
        obtain ⟨sign, other⟩ := silent.2.2
        rw [signed] at other
        cases other
      rw [Eff.bind_error (sendAndForget_of_unsigned signed)]
      refine .inr ⟨unsigned, .inr (.inr ⟨e, [], ?_, ?_, ?_⟩)⟩
      · rw [List.append_nil]
      · intro _ _ member
        cases member
      · rwa [List.append_nil]
    | ok sign =>
      by_cases connected : contact.channelMoniker ∈ t.mChannels
      swap
      · have skipped := sendAndForget_of_apart signed connected
        rw [Eff.bind_ok skipped, Eff.bind_ok (closing t)]
        exact .inl ⟨⟨ended, connected, sign, signed⟩, rfl⟩
      refine .inr ⟨fun silent => silent.2.1 connected, .inr ?_⟩
      have handedOver := sendAndForget_of_connected signed connected
      rw [channelSendMessage_eq] at handedOver
      cases sent : env.send t.log contact.channelMoniker
          ((abortMessage env dialog contact).setSignature sign) with
      | ok u =>
        rw [sent] at handedOver
        rw [Eff.bind_ok handedOver, Eff.bind_ok (closing _)]
        exact .inl ⟨sign, rfl⟩
      | error e =>
        rw [sent] at handedOver
        rw [Eff.bind_error handedOver]
        refine .inr ⟨e, [.handed contact.channelMoniker
          ((abortMessage env dialog contact).setSignature sign) false], rfl, ?_, ?_⟩
        · intro _ _ member
          cases List.mem_singleton.mp member
        · exact fun silent => silent.2.1 connected

/-! ## The states on the way -/

theorem find_saveDialog {s : Core w} {dialogId : Str} (named : dialog.mDialogId = dialogId) :
    (s.saveDialog p dialog).mDialogStorage.find dialogId = some dialog := by
  rw [← named]
  exact DialogStorage.find_put_self dialog

/-- What holds from the saved number on, as long as no part of the handler is through. -/
structure Entered (message : DialogMessage w) (dialog : Dialog w) (s t : Core w) : Prop where
  stored : t.mDialogStorage.find message.mDialogId =
    some { dialog with mPeerSequental := message.mSequentialNumber }
  contacts : t.mContactStorage = s.mContactStorage
  channels : t.mChannels = s.mChannels
  log : ∃ events, t.log = s.log ++ events ∧ Untransmitted events

namespace Entered

variable {s t : Core w}

theorem taken (found : s.mDialogStorage.find message.mDialogId = some dialog) :
    Entered message dialog s (takenState p message dialog s) := by
  refine ⟨?_, rfl, rfl, [.controlTaken message.mDialogId message.mSequentialNumber], rfl, ?_⟩
  · have named := DialogStorage.mDialogId_of_find found
    exact find_saveDialog p (by exact named)
  · intro _ _ member
    cases List.mem_singleton.mp member

/-- Events that transmit nothing may follow. -/
theorem extend (entered : Entered message dialog s t) (events : List (Event w))
    (untransmitted : Untransmitted events) :
    Entered message dialog s { t with log := t.log ++ events } := by
  obtain ⟨first, log, silent⟩ := entered.log
  refine ⟨entered.stored, entered.contacts, entered.channels, first ++ events, ?_, ?_⟩
  · rw [log, List.append_assoc]
  · intro channelName carried member
    rcases List.mem_append.mp member with early | late
    · exact silent channelName carried early
    · exact untransmitted channelName carried late

theorem emplaceCipher (entered : Entered message dialog s t) (element : DialogElement) :
    Entered message dialog s (t.emplaceCipher message.mDialogId element) := by
  unfold Core.emplaceCipher
  split
  · exact entered
  · have installed := entered.extend [.keyInstalled message.mDialogId]
      fun _ _ member => by cases List.mem_singleton.mp member
    exact ⟨installed.stored, installed.contacts, installed.channels, installed.log⟩

theorem concludes (entered : Entered message dialog s t) : Concludes message dialog s t :=
  ⟨_, entered.stored, .inr (.inl rfl)⟩

theorem named (entered : Entered message dialog s t) : dialog.mDialogId = message.mDialogId := by
  have named := DialogStorage.mDialogId_of_find entered.stored
  exact named

/-- Saved with its counter advanced, the dialog has kept its status. -/
theorem concludes_save (entered : Entered message dialog s t) (u : Core w) :
    Concludes message dialog s (u.saveDialog p
      { dialog with mPeerSequental := message.mSequentialNumber }.makeNextSequental) :=
  ⟨_, find_saveDialog p (by exact entered.named), .inr (.inl rfl)⟩

end Entered

/-! ## A step that is given up -/

/-- An ABORT among the new events was transmitted, if any is. -/
theorem not_abortSent {s s' : Core w} {events : List (Event w)} (log : s'.log = s.log ++ events)
    (untransmitted : Untransmitted events) : ¬ AbortSent dialog s s' := by
  intro ⟨contact, abort, _, member, _⟩
  rw [log, List.drop_left] at member
  exact untransmitted _ _ member

/-- The dialog is aborted, and its contact is told nothing. -/
def SilentlyAborted (message : DialogMessage w) (dialog : Dialog w) (s s' : Core w) : Prop :=
  ∃ dialog', s'.mDialogStorage.find message.mDialogId = some dialog' ∧
    dialog'.mStatus = .aborted ∧ ¬ AbortSent dialog s s'

/-- What the end of the handler leaves: a silent abort in the one case, else a concluded dialog. -/
def Leaves (silent : Prop) (message : DialogMessage w) (dialog : Dialog w) (s s' : Core w) : Prop :=
  silent ∧ SilentlyAborted message dialog s s' ∨ ¬ silent ∧ Concludes message dialog s s'

theorem Leaves.congr {silent silent' : Prop} {s s' : Core w} (same : silent ↔ silent')
    (leaves : Leaves silent message dialog s s') : Leaves silent' message dialog s s' := by
  rwa [← propext same]

/-- A notice to the user is no ABORT. -/
theorem abortSent_notified {s s' : Core w} (severity : Severity) (text : Str) :
    AbortSent dialog s (s'.record (.notified severity text)) ↔ AbortSent dialog s s' := by
  have same (channelName : Str) (abort : DialogMessage w) :
      Event.handed channelName abort true ∈
          (s'.record (.notified severity text)).log.drop s.log.length ↔
        Event.handed channelName abort true ∈ s'.log.drop s.log.length := by
    change _ ∈ (s'.log ++ [Event.notified severity text]).drop s.log.length ↔ _
    rw [List.drop_append, List.mem_append, or_iff_left]
    intro member
    cases List.mem_singleton.mp (List.mem_of_mem_drop member)
  unfold AbortSent
  simp only [same]

theorem Leaves.notified {silent : Prop} {s s' : Core w}
    (leaves : Leaves silent message dialog s s') (severity : Severity) (text : Str) :
    Leaves silent message dialog s (s'.record (.notified severity text)) := by
  unfold Leaves SilentlyAborted Concludes at leaves ⊢
  simp only [abortSent_notified]
  exact leaves

variable {s t : Core w}

/-- The attempt to abort the dialog: either it is over, or an exception leaves the dialog as it
was. -/
theorem Entered.abortDialog (entered : Entered message dialog s t)
    (known : s.mContactStorage[dialog.mContactId]? = some contact) :
    (∃ s', DialogActionHandler.abortDialog p env message.mDialogId t = (.ok (), s') ∧
      Leaves (AbortsSilently env dialog contact t) message dialog s s') ∨
    ¬ AbortsSilently env dialog contact t ∧ ∃ e t',
      DialogActionHandler.abortDialog p env message.mDialogId t = (.error (.thrown e), t') ∧
        Entered message dialog s t' ∧ ¬ AbortsSilently env dialog contact t' := by
  have contacts : t.mContactStorage[dialog.mContactId]? = some contact := by
    rw [entered.contacts]
    exact known
  obtain ⟨events, log, untransmitted⟩ := entered.log
  rcases abortDialog_outcome p env entered.stored contacts with
    ⟨silent, outcome⟩ | ⟨loud, outcome | ⟨sign, outcome⟩ | ⟨e, later, outcome, nothing, loud'⟩⟩
  · refine .inl ⟨_, outcome, .inl ⟨silent, _, find_saveDialog p (by exact entered.named), rfl, ?_⟩⟩
    exact not_abortSent log untransmitted
  · exact .inl ⟨t, outcome, .inr ⟨loud, entered.concludes⟩⟩
  · refine .inl ⟨_, outcome, .inr ⟨loud, _, find_saveDialog p (by exact entered.named), ?_⟩⟩
    refine .inr (.inr ⟨rfl, contact, (abortMessage env dialog contact).setSignature sign, known, ?_,
      rfl, rfl, rfl⟩)
    have added : Event.handed contact.channelMoniker
        ((abortMessage env dialog contact).setSignature sign) true ∈
          (t.log ++ [Event.handed contact.channelMoniker
            ((abortMessage env dialog contact).setSignature sign) true]).drop s.log.length := by
      rw [log, List.append_assoc, List.drop_left]
      exact List.mem_append_right _ (List.mem_singleton_self _)
    exact added
  · exact .inr ⟨loud, e, _, outcome, entered.extend later nothing, loud'⟩

/-- After an exception the dialog of a stored contact is aborted, unless it has ended. -/
theorem Entered.prepareHandleException (entered : Entered message dialog s t)
    (known : s.mContactStorage[dialog.mContactId]? = some contact) :
    ∃ s', DialogActionHandler.prepareHandleException p env message channel t = (.ok (), s') ∧
      Leaves (AbortsSilently env dialog contact t) message dialog s s' := by
  have present : t.mDialogStorage.has message.mDialogId = true := has_iff.mpr ⟨_, entered.stored⟩
  unfold DialogActionHandler.prepareHandleException
  have body : (do
      let dialogs ← Eff.reads (·.mDialogStorage)
      if dialogs.has message.mDialogId = true then
        DialogActionHandler.abortDialog p env message.mDialogId
      else sendAndForget env (strayAbort env message) channel : M w Unit) t =
        DialogActionHandler.abortDialog p env message.mDialogId t := by
    rw [Eff.reads_bind, if_pos present]
  rcases entered.abortDialog p env known with
    ⟨s', outcome, leaves⟩ | ⟨loud, e, t', outcome, entered', -⟩
  · exact ⟨s', Eff.catching_ok (body.trans outcome) _, leaves⟩
  · exact ⟨t', Eff.catching_thrown (body.trans outcome) _, .inr ⟨loud, entered'.concludes⟩⟩

/-! ## The requests of the key exchange -/

/-- A request that the status allows: it is over, or fails over a connected channel. -/
theorem Entered.sendRequest_of_allowed (entered : Entered message dialog s t)
    (known : s.mContactStorage[dialog.mContactId]? = some contact) {action : Action}
    (allowed : isMessageActionAllowed dialog.mStatus action = true) (handler : DeliveryHandler)
    (content : Str) :
    (∃ s', DialogActionHandler.sendRequest p env message.mDialogId action handler content t =
        (.ok (), s') ∧ Concludes message dialog s s') ∨
      ∃ e t', DialogActionHandler.sendRequest p env message.mDialogId action handler content t =
        (.error (.thrown e), t') ∧ Entered message dialog s t' ∧
          contact.channelMoniker ∈ t'.mChannels := by
  have contacts : t.mContactStorage[dialog.mContactId]? = some contact := by
    rw [entered.contacts]
    exact known
  rw [SecureDialogues.sendRequest_of_allowed p env entered.stored contacts allowed]
  rcases sendMessage_outcome env (requestMessage env action
      { dialog with mPeerSequental := message.mSequentialNumber } contact content)
      contact.channelMoniker handler t with
    ⟨fails, e, outcome⟩ | ⟨fails, e, sign, wait, outcome⟩ | ⟨-, -, u, outcome⟩
  · exact .inr ⟨e, t, Eff.bind_error outcome _, entered, fails.1⟩
  · have failed := entered.extend [.handed contact.channelMoniker ((requestMessage env action
      { dialog with mPeerSequental := message.mSequentialNumber } contact
        content).setSignature sign) false] fun _ _ member => by cases List.mem_singleton.mp member
    exact .inr ⟨e, _, Eff.bind_error outcome _,
      ⟨failed.stored, failed.contacts, failed.channels, failed.log⟩, fails.1⟩
  · exact .inl ⟨_, Eff.bind_ok outcome _, entered.concludes_save p u⟩

theorem Entered.sendRequest_of_refused (entered : Entered message dialog s t)
    (known : s.mContactStorage[dialog.mContactId]? = some contact) {action : Action}
    (refused : isMessageActionAllowed dialog.mStatus action = false) (handler : DeliveryHandler)
    (content : Str) :
    ∃ e, DialogActionHandler.sendRequest p env message.mDialogId action handler content t =
      (.error (.thrown e), t) := by
  have contacts : t.mContactStorage[dialog.mContactId]? = some contact := by
    rw [entered.contacts]
    exact known
  have refuses : isMessageActionAllowed ({ dialog with
    mPeerSequental := message.mSequentialNumber } : Dialog w).mStatus action = false := refused
  obtain ⟨e, outcome⟩ := makeMessage_of_refused p env refuses contact content t
  refine ⟨e, ?_⟩
  rw [DialogActionHandler.sendRequest, Eff.bind_ok (wrapper_of_some p entered.stored),
    Eff.bind_ok (getContact_of_some p contacts), Eff.bind_error outcome]

/-! ## The reactions -/

/-- `handle` from the saved number on. -/
def takenHandle (p : Platform w) (env : Env w) (message : DialogMessage w) (channel : Str) :
    M w Unit :=
  Eff.catching (DialogActionHandler.prepareForFoundDialog p env message)
    fun _ => DialogActionHandler.prepareHandleException p env message channel

/-- It returns, and leaves the dialog as it should be unless the abort is silent. -/
def Reacts (p : Platform w) (env : Env w) (message : DialogMessage w) (channel : Str)
    (dialog : Dialog w) (silent : Prop) (s t : Core w) : Prop :=
  ∃ s', takenHandle p env message channel t = (.ok (), s') ∧ Leaves silent message dialog s s'

/-- The step is refused in a state of which the dialog can be aborted. -/
theorem Entered.reacts_of_thrown (entered : Entered message dialog s t)
    (known : s.mContactStorage[dialog.mContactId]? = some contact) {u : Core w} {e : Exn}
    (thrown : DialogActionHandler.prepareForFoundDialog p env message u = (.error (.thrown e), t)) :
    Reacts p env message channel dialog (AbortsSilently env dialog contact t) s u := by
  obtain ⟨s', outcome, leaves⟩ :=
    entered.prepareHandleException p env channel known
  exact ⟨s', (Eff.catching_thrown thrown _).trans outcome, leaves⟩

/-- A request of the key exchange is refused or made. -/
theorem Entered.reacts_of_request (entered : Entered message dialog s t)
    (known : s.mContactStorage[dialog.mContactId]? = some contact) {u : Core w} {action : Action}
    {handler : DeliveryHandler} {content : Str}
    (requests : DialogActionHandler.prepareForFoundDialog p env message u =
      DialogActionHandler.sendRequest p env message.mDialogId action handler content t) :
    Reacts p env message channel dialog (isMessageActionAllowed dialog.mStatus action = false ∧
      AbortsSilently env dialog contact t) s u := by
  cases allowed : isMessageActionAllowed dialog.mStatus action with
  | false =>
    obtain ⟨e, refused⟩ := entered.sendRequest_of_refused p env known allowed
      handler content
    obtain ⟨s', outcome, leaves⟩ := entered.reacts_of_thrown p env channel known
      (requests.trans refused)
    exact ⟨s', outcome, leaves.congr (by simp)⟩
  | true =>
    rcases entered.sendRequest_of_allowed p env known allowed handler content with
      ⟨s', returned, concludes⟩ | ⟨e, t', thrown, entered', connected⟩
    · exact ⟨s', Eff.catching_ok (requests.trans returned) _, .inr ⟨by simp, concludes⟩⟩
    · obtain ⟨s', outcome, leaves⟩ := entered'.reacts_of_thrown p env channel known
        (requests.trans thrown)
      refine ⟨s', outcome, leaves.congr ?_⟩
      exact iff_of_false (fun silent => silent.2.1 connected) (by simp)

/-- A change of the status: the transition is allowed, or refused. -/
theorem Entered.reacts_statusChange (entered : Entered message dialog s t)
    (known : s.mContactStorage[dialog.mContactId]? = some contact) {status : Status}
    (called : calledFor message.mAction = some status) :
    Reacts p env message channel dialog (isStateTransitionAllowed dialog.mStatus status = false ∧
      AbortsSilently env dialog contact t) s t := by
  have contacts : t.mContactStorage[dialog.mContactId]? = some contact := by
    rw [entered.contacts]
    exact known
  have mapped : DialogActionHandler.map p message.mAction = some status := by
    revert called
    cases message.mAction <;> intro called <;> cases called <;> rfl
  have changes : DialogActionHandler.prepareForFoundDialog p env message t =
      DialogActionHandler.prepareStatusChange p message t := by
    unfold DialogActionHandler.prepareForFoundDialog
    rw [if_neg, if_neg]
    · intro action
      rw [action] at called
      cases called
    · intro action
      rw [action] at called
      cases called
  unfold DialogActionHandler.prepareStatusChange at changes
  rw [Eff.bind_ok (wrapper_of_some p entered.stored), Eff.bind_ok (getContact_of_some p contacts),
    mapped] at changes
  cases allowed : isStateTransitionAllowed dialog.mStatus status with
  | false =>
    have refuses : isStateTransitionAllowed ({ dialog with
      mPeerSequental := message.mSequentialNumber } : Dialog w).mStatus status = false := allowed
    obtain ⟨e, refused⟩ := setStatus_of_refused p refuses t
    obtain ⟨s', outcome, leaves⟩ := entered.reacts_of_thrown p env channel known
      (changes.trans (Eff.bind_error refused _))
    exact ⟨s', outcome, leaves.congr (by simp)⟩
  | true =>
    have allows : isStateTransitionAllowed ({ dialog with
      mPeerSequental := message.mSequentialNumber } : Dialog w).mStatus status = true := allowed
    have moved := setStatus_of_allowed p allows t
    refine ⟨_, Eff.catching_ok (changes.trans (Eff.bind_ok moved _)) _, .inr ⟨by simp, ?_⟩⟩
    exact ⟨_, find_saveDialog p (by exact entered.named), .inl ⟨called, allowed⟩⟩

/-- A key that is imported is answered, if the status allows it. -/
theorem Entered.reacts_verifyKey (entered : Entered message dialog s t)
    (known : s.mContactStorage[dialog.mContactId]? = some contact)
    (action : message.mAction = .verifyKey) :
    Reacts p env message channel dialog
      ((ImportsKey p t message → dialog.mStatus ≠ .waitConfirm) ∧
        AbortsSilently env dialog contact (refusedState p message t)) s t := by
  have contacts : t.mContactStorage[dialog.mContactId]? = some contact := by
    rw [entered.contacts]
    exact known
  have imports : DialogActionHandler.prepareForFoundDialog p env message t =
      DialogActionHandler.prepareVerifyKey p env message t := by
    unfold DialogActionHandler.prepareForFoundDialog
    rw [if_pos action]
  unfold DialogActionHandler.prepareVerifyKey at imports
  rw [Eff.bind_ok (wrapper_of_some p entered.stored),
    Eff.bind_ok (getContact_of_some p contacts)] at imports
  unfold ImportsKey refusedState
  rw [if_pos action]
  cases read : createSymmetricalCipherFrom p (splitKeyText message.mContent).1 with
  | error e =>
    have unreadable := importKey_of_unreadable p t message.mDialogId read
    obtain ⟨s', outcome, leaves⟩ := entered.reacts_of_thrown p env channel known
      (imports.trans (Eff.bind_error unreadable _))
    exact ⟨s', outcome, leaves.congr (by simp)⟩
  | ok cipher =>
    have installed := entered.emplaceCipher { cipher, myString := [] }
    obtain ⟨r, outcome, ⟨⟨answer, rfl⟩, decr, text, decrypts, encrypts⟩ | ⟨⟨e, rfl⟩, fails⟩⟩ :=
      importKey_of_readable p t message.mDialogId read
    · obtain ⟨s', outcome, leaves⟩ := installed.reacts_of_request p env channel known
        (imports.trans (Eff.bind_ok outcome _))
      refine ⟨s', outcome, leaves.congr (and_congr_left' ?_)⟩
      rw [← Bool.not_eq_true, isMessageActionAllowed_keyVerification]
      exact ⟨fun other _ => other, fun other => other ⟨cipher, rfl, decr, decrypts, text, encrypts⟩⟩
    · obtain ⟨s', outcome, leaves⟩ := installed.reacts_of_thrown p env channel known
        (imports.trans (Eff.bind_error outcome _))
      refine ⟨s', outcome, leaves.congr (iff_and_self.mpr fun _ imported => ?_)⟩
      obtain ⟨key, same, decr, decrypts, text, encrypts⟩ := imported
      cases same
      exact absurd ⟨decr, text, decrypts, encrypts⟩ fails

/-- A verification string is right, wrong, or not to be decrypted. -/
theorem Entered.reacts_keyVerification (entered : Entered message dialog s t)
    (known : s.mContactStorage[dialog.mContactId]? = some contact)
    (action : message.mAction = .keyVerification) :
    Reacts p env message channel dialog
      ((checkVerificationString p t.mCiphers message.mDialogId message.mContent = .ok true →
          dialog.mStatus ≠ .waitKeyVerificaion) ∧
        AbortsSilently env dialog contact t) s t := by
  have contacts : t.mContactStorage[dialog.mContactId]? = some contact := by
    rw [entered.contacts]
    exact known
  have checks : DialogActionHandler.prepareForFoundDialog p env message t =
      DialogActionHandler.prepareKeyVerification p env message t := by
    unfold DialogActionHandler.prepareForFoundDialog
    rw [if_neg (by rw [action]; simp), if_pos action]
  unfold DialogActionHandler.prepareKeyVerification at checks
  rw [Eff.readsOr_bind] at checks
  cases checked : checkVerificationString p t.mCiphers message.mDialogId message.mContent with
  | error e =>
    rw [checked] at checks
    obtain ⟨s', outcome, leaves⟩ := entered.reacts_of_thrown p env channel known checks
    exact ⟨s', outcome, leaves.congr (by simp)⟩
  | ok verified =>
    rw [checked] at checks
    cases verified with
    | true =>
      simp only [if_true] at checks
      rw [Eff.bind_ok (wrapper_of_some p entered.stored),
        Eff.bind_ok (getContact_of_some p contacts)] at checks
      obtain ⟨s', outcome, leaves⟩ := entered.reacts_of_request p env channel known checks
      refine ⟨s', outcome, leaves.congr (and_congr_left' ?_)⟩
      rw [← Bool.not_eq_true, isMessageActionAllowed_acceptDialog]
      simp
    | false =>
      simp only [Bool.false_eq_true, if_false] at checks
      rcases entered.abortDialog p env known with
        ⟨s', outcome, leaves⟩ | ⟨loud, e, t', outcome, entered', loud'⟩
      · refine ⟨_, Eff.catching_ok (checks.trans (Eff.bind_ok outcome _)) _, ?_⟩
        exact (leaves.notified _ _).congr (by simp)
      · -- the exception has the handler try once more
        obtain ⟨s', outcome, leaves⟩ := entered'.reacts_of_thrown p env channel known
          (checks.trans (Eff.bind_error outcome _))
        exact ⟨s', outcome, leaves.congr (by simp [loud, loud'])⟩

/-- The reaction to every action but CREATE_DIALOG. -/
theorem reacts (taken : IsTaken message dialog s)
    (known : s.mContactStorage[dialog.mContactId]? = some contact)
    (other : message.mAction ≠ .createDialog) :
    Reacts p env message channel dialog (StepRefused p message dialog s ∧
      AbortsSilently env dialog contact (refusedState p message (takenState p message dialog s)))
      s (takenState p message dialog s) := by
  have entered := Entered.taken p taken.found
  have control := taken.control
  have state (action : message.mAction ≠ .verifyKey) :
      refusedState p message (takenState p message dialog s) = takenState p message dialog s := by
    rw [refusedState, if_neg action]
  unfold StepRefused
  cases action : message.mAction with
  | createDialog => exact absurd action other
  | message => rw [action] at control; cases control
  | ack => rw [action] at control; cases control
  | contactDiscover => rw [action] at control; cases control
  | acceptDialog =>
    rw [state (by rw [action]; simp)]
    exact entered.reacts_statusChange p env channel known (by rw [action]; rfl)
  | closeDialog =>
    rw [state (by rw [action]; simp)]
    exact entered.reacts_statusChange p env channel known (by rw [action]; rfl)
  | abort =>
    have called : calledFor message.mAction = some .aborted := by rw [action]; rfl
    obtain ⟨s', outcome, leaves⟩ := entered.reacts_statusChange p env channel known called
    refine ⟨s', outcome, leaves.congr (iff_of_false ?_ (by simp))⟩
    -- what has not ended may be aborted
    rw [isStateTransitionAllowed_aborted]
    intro ⟨refused, silent⟩
    rw [silent.1] at refused
    cases refused
  | verifyKey => exact entered.reacts_verifyKey p env channel known action
  | keyVerification =>
    rw [state (by rw [action]; simp)]
    exact entered.reacts_keyVerification p env channel known action

theorem Entered.abortDialog_unknown (entered : Entered message dialog s t)
    (unknown : t.mContactStorage[dialog.mContactId]? = none) :
    ∃ e, DialogActionHandler.abortDialog p env message.mDialogId t = (.error (.thrown e), t) := by
  unfold DialogActionHandler.abortDialog
  rw [Eff.bind_ok (wrapper_of_some p entered.stored)]
  exact ⟨_, Eff.bind_error (getContact_of_none p unknown) _⟩

theorem Entered.prepareForFoundDialog_unknown (entered : Entered message dialog s t)
    (unknown : t.mContactStorage[dialog.mContactId]? = none) :
    ∃ e, DialogActionHandler.prepareForFoundDialog p env message t =
      (.error (.thrown e), t) := by
  unfold DialogActionHandler.prepareForFoundDialog
  split
  · rw [DialogActionHandler.prepareVerifyKey, Eff.bind_ok (wrapper_of_some p entered.stored)]
    exact ⟨_, Eff.bind_error (getContact_of_none p unknown) _⟩
  split
  · rw [DialogActionHandler.prepareKeyVerification, Eff.readsOr_bind]
    cases checkVerificationString p t.mCiphers message.mDialogId message.mContent with
    | error e => exact ⟨e, rfl⟩
    | ok verified =>
      cases verified with
      | true =>
        simp only [if_true]
        rw [Eff.bind_ok (wrapper_of_some p entered.stored)]
        exact ⟨_, Eff.bind_error (getContact_of_none p unknown) _⟩
      | false =>
        obtain ⟨e, thrown⟩ := entered.abortDialog_unknown p env unknown
        exact ⟨e, Eff.bind_error thrown _⟩
  · rw [DialogActionHandler.prepareStatusChange, Eff.bind_ok (wrapper_of_some p entered.stored)]
    exact ⟨_, Eff.bind_error (getContact_of_none p unknown) _⟩

/-- The dialog of a contact that is not stored keeps its status. -/
theorem reacts_unknown (taken : IsTaken message dialog s)
    (unknown : s.mContactStorage[dialog.mContactId]? = none) :
    Reacts p env message channel dialog False s (takenState p message dialog s) := by
  have entered := Entered.taken p taken.found
  have contacts : (takenState p message dialog s).mContactStorage[dialog.mContactId]? = none :=
    unknown
  obtain ⟨e, thrown⟩ := entered.prepareForFoundDialog_unknown p env contacts
  obtain ⟨e', again⟩ := entered.abortDialog_unknown p env contacts
  refine ⟨takenState p message dialog s, ?_, .inr ⟨id, entered.concludes⟩⟩
  rw [takenHandle, Eff.catching_thrown thrown]
  refine Eff.catching_thrown (e := e') ?_ _
  rw [Eff.reads_bind, if_pos (has_iff.mpr ⟨_, entered.stored⟩), again]

variable {p env channel}

/-- A CREATE_DIALOG for a stored dialog comes to the assertion. -/
theorem reachesAssert_of_createDialog (taken : IsTaken message dialog s)
    (known : s.mContactStorage[dialog.mContactId]? = some contact)
    (action : message.mAction = .createDialog) : ReachesAssert p env message channel s := by
  unfold ReachesAssert
  generalize build : ({ p with ndebug := false } : Platform w) = debug
  have asserts : debug.ndebug = false := by rw [← build]
  have entered := Entered.taken debug taken.found
  have contacts : (takenState debug message dialog s).mContactStorage[dialog.mContactId]? =
    some contact := known
  have stops : DialogActionHandler.prepareForFoundDialog debug env message
      (takenState debug message dialog s) =
        (.error .terminated, takenState debug message dialog s) := by
    unfold DialogActionHandler.prepareForFoundDialog
    rw [if_neg (by rw [action]; simp), if_neg (by rw [action]; simp),
      DialogActionHandler.prepareStatusChange, Eff.bind_ok (wrapper_of_some debug entered.stored),
      Eff.bind_ok (getContact_of_some debug contacts), action]
    simp only [DialogActionHandler.map, asserts, Bool.false_eq_true, if_false]
    rfl
  rw [controlHandle_of_fresh taken.found taken.fresh, Eff.catching, stops]

/-! ## The exact condition -/

/-- A handler that returns does not come to the assertion in the build with assertions. -/
theorem Reacts.not_reachesAssert {silent : Prop} (taken : IsTaken message dialog s)
    (reacts : Reacts { p with ndebug := false } env message channel dialog silent s
      (takenState { p with ndebug := false } message dialog s)) :
    ¬ ReachesAssert p env message channel s := by
  obtain ⟨s', outcome, -⟩ := reacts
  rw [ReachesAssert, controlHandle_of_fresh taken.found taken.fresh]
  intro stops
  have returned := congrArg Prod.fst outcome
  rw [takenHandle, stops] at returned
  cases returned

theorem Reacts.concludes_iff {silent : Prop} (taken : IsTaken message dialog s)
    (reacts : Reacts p env message channel dialog silent s (takenState p message dialog s))
    (changes : silent → calledFor message.mAction ≠ some .aborted ∧ dialog.mStatus ≠ .aborted) :
    Concludes message dialog s (DialogActionHandler.handle p env message channel s).2 ↔ ¬ silent := by
  obtain ⟨s', outcome, leaves⟩ := reacts
  rw [controlHandle_of_fresh taken.found taken.fresh]
  change Concludes message dialog s (takenHandle p env message channel _).2 ↔ _
  rw [outcome]
  rcases leaves with ⟨silent, aborted, found, status, unsent⟩ | ⟨loud, concludes⟩
  · refine iff_of_false ?_ (not_not.mpr silent)
    intro ⟨other, found', settled⟩
    rw [found] at found'
    cases found'
    rw [status] at settled
    rcases settled with ⟨called, -⟩ | kept | ⟨-, sent⟩
    · exact (changes silent).1 called
    · exact (changes silent).2 kept.symm
    · exact unsent sent
  · exact iff_of_true concludes loud

end

/-- Exactly when the control actions are total: every stored dialog of a stored contact gets no
CREATE_DIALOG, and a refused step does not abort it silently. -/
theorem control_total_iff (s : Core w) :
    ControlIsTotal p env message channel s ↔ IsAnswerable p env message s := by
  refine forall_congr' fun dialog => forall_congr' fun taken => ?_
  cases known : s.mContactStorage[dialog.mContactId]? with
  | none =>
    have total : ¬ ReachesAssert p env message channel s :=
      (reacts_unknown _ env channel taken known).not_reachesAssert taken
    have concludes := ((reacts_unknown p env channel taken
      known).concludes_iff taken False.elim).mpr id
    exact iff_of_true ⟨total, concludes⟩ fun contact present => nomatch present
  | some contact =>
    simp only [Option.some.injEq, forall_eq']
    by_cases action : message.mAction = .createDialog
    · exact iff_of_false (fun total => total.1 (reachesAssert_of_createDialog taken known action))
        fun answerable => answerable.1 action
    have total : ¬ ReachesAssert p env message channel s :=
      (reacts _ env channel taken known action).not_reachesAssert taken
    rw [(reacts p env channel taken known action).concludes_iff taken ?_]
    · simp only [total, action, not_false_eq_true, true_and, ne_eq, not_and]
    · intro ⟨refused, silent⟩
      constructor
      · intro called
        revert refused
        unfold StepRefused
        cases same : message.mAction <;> rw [same] at called <;> cases called
        exact id
      · intro aborted
        have live := silent.1
        rw [aborted] at live
        cases live

end

/-- The peer asks for a dialog under the identifier of the stored one. -/
theorem create_dialog_reaches_assert :
    ¬ ControlIsTotal Sample.platform Sample.env (Sample.incoming .createDialog 1 []) Sample.channel
      (Sample.run Sample.request) := by
  intro total
  have taken : IsTaken (Sample.incoming .createDialog 1 []) (Sample.dialog .waitConfirm 0 6)
      (Sample.run Sample.request) := ⟨by decide +kernel, rfl, by decide⟩
  have known : (Sample.run Sample.request).mContactStorage[Sample.peer.id]? = some Sample.peer := by
    decide +kernel
  exact (total _ taken).1 (reachesAssert_of_createDialog taken known rfl)

end SecureDialogues
