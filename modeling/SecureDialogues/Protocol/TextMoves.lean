import SecureDialogues.Protocol.ControlMoves

/-!
# The moves of texts

`MessageActionHandler` for an incoming text, and the user's `sendMessage`. Neither writes the peer
counter of a stored dialog.
-/

namespace SecureDialogues

open Text Effect

section

variable {w : Nat} {p : Platform w} {env : Env w} {start : Core w} {input : Input w}
  {message : DialogMessage w} {channel : Str}

theorem Noted.ready {s : Core w} (noted : Noted start s) (dialogId : Str) :
    Ready start s.view dialogId := by
  obtain ⟨notes, rfl, note⟩ := noted
  exact (ready_start dialogId).congr (keyed_view start dialogId) rfl rfl
    (handedNumbers_append_notes dialogId start.log note)

/-! ## Incoming texts -/

theorem addMessage_does (dialogId : Str) (added : UserMessage) (s : Core w) :
    Eff.Does (Moves p env start input) (addMessage dialogId added) s fun r s' =>
      r = .ok () ∧ s'.view = s.view ∧ s'.mDialogStorage = s.mDialogStorage :=
  Eff.Does.update .refl ⟨rfl, rfl, rfl⟩

theorem abortStored_does {s : Core w}
    (cause : AbortCause p env start input s.view message.mDialogId)
    (ready : Ready start s.view message.mDialogId) :
    Eff.Does (Moves p env start input)
      (MessageActionHandler.abortStored p env message channel) s fun _ _ => True := by
  unfold MessageActionHandler.abortStored
  cases found : s.mDialogStorage.find message.mDialogId with
  | none =>
    rw [Eff.Does, Eff.bind_error (wrapper_of_none p found)]
    exact ⟨.refl, trivial⟩
  | some dialog =>
    rw [← DialogStorage.mDialogId_of_find found] at cause
    rw [Eff.Does, Eff.bind_ok (wrapper_of_some p found)]
    have stored : s.view.dialogs dialog.mDialogId = some dialog := by
      rw [DialogStorage.mDialogId_of_find found]
      exact found
    cases contactFound : s.mContactStorage[dialog.mContactId]? with
    | none =>
      rw [Eff.bind_error (getContact_of_none p contactFound)]
      exact ⟨.refl, trivial⟩
    | some contact =>
      rw [Eff.bind_ok (getContact_of_some p contactFound)]
      cases open' : dialog.mStatus.isEnded with
      | true =>
        have closed : dialog.makeNextSequental.mStatus.isEnded = true := open'
        obtain ⟨e, refused⟩ := setAborted_of_ended p closed s
        rw [Eff.bind_error refused]
        exact ⟨.refl, trivial⟩
      | false =>
        have live : dialog.makeNextSequental.mStatus.isEnded = false := open'
        rw [Eff.bind_ok (setAborted_of_open p live s)]
        have unsent : Unsent start s.view dialog ∨ SentInVain p env start input s.view :=
          .inl (ready dialog found)
        rcases sendAndForget_cases env (makeAbort env.getTimestamp
            dialog.makeNextSequental.mDialogId contact.adress
            dialog.makeNextSequental.mThisSequental) channel s with
          ⟨e, -, unsigned⟩ | ⟨-, skipped⟩ | ⟨sign, ⟨-, sent⟩ | ⟨e, failed, unsent'⟩⟩
        · rw [Eff.bind_error unsigned]
          exact ⟨.refl, trivial⟩
        · rw [Eff.bind_ok skipped]
          refine ⟨.single ?_, trivial⟩
          rw [save, Eff.update_apply, Core.view_saveDialog]
          have move : Move p env start input s.view ((s.view.record []).setDialog
              (dialog.makeNextSequental.withStatus .aborted)) :=
            .abort cause unsent stored open' (by simp) (by simp)
          rwa [View.record_nil] at move
        · rw [Eff.bind_ok sent]
          refine ⟨.single ?_, trivial⟩
          rw [save, Eff.update_apply, Core.view_saveDialog, Core.view_record]
          refine .abort cause unsent stored open' (fun event member => ?_) (by simp)
          rw [List.mem_singleton] at member
          exact ⟨_, _, member, rfl, rfl, rfl⟩
        · rw [Eff.bind_error unsent']
          refine ⟨.single ?_, trivial⟩
          rw [Core.view_record]
          exact .abortFailed rfl

/-- The exception of an unreadable text of a stored dialog, or of an ABORT that could not be sent
for a dialog that is not stored. -/
theorem abortOnException_does {s : Core w}
    (cause : s.mDialogStorage.has message.mDialogId = true →
      AbortCause p env start input s.view message.mDialogId ∧
        Ready start s.view message.mDialogId) :
    Eff.Does (Moves p env start input)
      (MessageActionHandler.abortOnException p env message channel) s fun _ _ => True := by
  unfold MessageActionHandler.abortOnException
  refine Eff.Does.catching (Q := fun _ _ => True) ?_ (fun _ _ _ _ => Eff.Does.pure trivial)
    (fun _ _ _ _ => trivial) fun _ _ _ => trivial
  refine Eff.Does.bind (addMessage_does message.mDialogId _ s) (fun _ s' _ added => ?_)
    fun _ _ _ _ => trivial
  obtain ⟨-, sameView, sameDialogs⟩ := added
  rw [← sameView, ← sameDialogs] at cause
  rw [Eff.Does, Eff.reads_bind]
  cases stored : s'.mDialogStorage.has message.mDialogId with
  | true =>
    rw [if_pos rfl]
    obtain ⟨aborts, ready⟩ := cause stored
    exact abortStored_does aborts ready
  | false =>
    rw [if_neg (by simp)]
    exact ⟨(strayAbort_does message channel (has_eq_false.mp stored)).1, trivial⟩

/-! ## The handler -/

/-- The state once a text is accepted. -/
def textState (message : DialogMessage w) (text : Str) (s : Core w) : Core w :=
  ({ s with mMessageContainer := s.mMessageContainer.addText message.mDialogId text true } :
    Core w).record (.textAdded message.mDialogId message.mSequentialNumber text)

/-- The notice that a text belongs to no stored dialog. -/
def noDialogNotice (p : Platform w) (message : DialogMessage w) : Event w :=
  .notified .error
    (p.text ("Recieved message from \x7b\x7d. With specified user " ++
      "has no opened dialogs") [message.mAdress])

/-- The handler for a fresh text that can be read. -/
theorem textHandle_of_read {dialog : Dialog w} {s : Core w} {text : Str}
    (found : s.mDialogStorage.find message.mDialogId = some dialog)
    (fresh : dialog.mPeerSequental < message.mSequentialNumber)
    (read : decryptMessageBody p s.mCiphers message.mDialogId message.mContent = .ok text) :
    MessageActionHandler.handle p env message channel s = (.ok (), textState message text s) := by
  have accepted := Dialog.isSequentalOk_eq_some.mpr ⟨fresh, rfl⟩
  unfold MessageActionHandler.handle
  rw [Eff.catching_ok]
  rw [Eff.reads_bind, if_pos (has_iff.mpr ⟨dialog, found⟩), Eff.bind_ok (wrapper_of_some p found),
    accepted]
  simp only [MessageActionHandler.acceptText]
  rw [Eff.readsOr_bind, read]
  rfl

/-- The handler for a fresh text that cannot be read. -/
theorem textHandle_of_unread {dialog : Dialog w} {s : Core w} {e : Exn}
    (found : s.mDialogStorage.find message.mDialogId = some dialog)
    (fresh : dialog.mPeerSequental < message.mSequentialNumber)
    (unread : decryptMessageBody p s.mCiphers message.mDialogId message.mContent = .error e) :
    MessageActionHandler.handle p env message channel s =
      MessageActionHandler.abortOnException p env message channel s := by
  have accepted := Dialog.isSequentalOk_eq_some.mpr ⟨fresh, rfl⟩
  unfold MessageActionHandler.handle
  rw [Eff.catching_thrown]
  rw [Eff.reads_bind, if_pos (has_iff.mpr ⟨dialog, found⟩), Eff.bind_ok (wrapper_of_some p found),
    accepted]
  simp only [MessageActionHandler.acceptText]
  rw [Eff.readsOr_bind, unread]

/-- The handler for a text of a stored dialog that is not fresh. -/
theorem textHandle_of_old {dialog : Dialog w} {s : Core w}
    (found : s.mDialogStorage.find message.mDialogId = some dialog)
    (old : ¬ dialog.mPeerSequental < message.mSequentialNumber) :
    MessageActionHandler.handle p env message channel s = (.ok (), s) := by
  have refused := Dialog.isSequentalOk_eq_none.mpr old
  unfold MessageActionHandler.handle
  rw [Eff.catching_ok]
  rw [Eff.reads_bind, if_pos (has_iff.mpr ⟨dialog, found⟩), Eff.bind_ok (wrapper_of_some p found),
    refused]
  rfl

/-- The handler for a text of a dialog that is not stored. -/
theorem textHandle_of_unknown {s : Core w}
    (unknown : s.mDialogStorage.find message.mDialogId = none) :
    MessageActionHandler.handle p env message channel s =
      Eff.catching (sendAndForget env (strayAbort env message) channel)
        (fun _ => MessageActionHandler.abortOnException p env message channel)
        (s.record (noDialogNotice p message)) := by
  refine Eff.catching_congr ?_ _
  rw [Eff.reads_bind, if_neg (by simp [has_eq_false.mpr unknown])]
  rfl

theorem textHandle_does (cause : input = .dispatch message channel)
    (action : message.mAction = .message) (delivered : Delivered p env start message channel)
    {s : Core w} (noted : Noted start s) :
    Eff.Does (Moves p env start input) (MessageActionHandler.handle p env message channel) s
      fun _ _ => True := by
  have sameDialogs : s.mDialogStorage = start.mDialogStorage := by
    obtain ⟨notes, rfl, -⟩ := noted
    rfl
  have sameCiphers : s.mCiphers = start.mCiphers := by
    obtain ⟨notes, rfl, -⟩ := noted
    rfl
  cases stored : s.mDialogStorage.find message.mDialogId with
  | none =>
    rw [Eff.Does, textHandle_of_unknown stored]
    have notified : Move p env start input s.view (s.record (noDialogNotice p message)).view :=
      .note rfl
    have recovers : Eff.Does (Moves p env start input)
        (Eff.catching (sendAndForget env (strayAbort env message) channel)
          fun _ => MessageActionHandler.abortOnException p env message channel)
        (s.record (noDialogNotice p message)) fun _ _ => True := by
      have missing : (s.record (noDialogNotice p message)).mDialogStorage.find message.mDialogId =
          none := stored
      refine (strayAbort_does message channel missing).catching
        (fun _ s' _ outcome => abortOnException_does fun present => ?_)
        (fun _ _ _ _ => trivial) fun _ _ _ => trivial
      rw [outcome.1, has_eq_false.mpr missing] at present
      cases present
    exact ⟨.head notified recovers.1, trivial⟩
  | some dialog =>
    by_cases fresh : dialog.mPeerSequental < message.mSequentialNumber
    · cases read : decryptMessageBody p s.mCiphers message.mDialogId message.mContent with
      | error e =>
        rw [Eff.Does, textHandle_of_unread stored fresh read]
        refine abortOnException_does fun _ => ⟨?_, noted.ready message.mDialogId⟩
        refine .text cause action delivered ⟨dialog, sameDialogs ▸ stored, fresh⟩ fun text => ?_
        simp [← sameCiphers, read]
      | ok text =>
        rw [Eff.Does, textHandle_of_read stored fresh read]
        refine ⟨.single ?_, trivial⟩
        exact .addText cause action delivered noted.untouched stored fresh (sameCiphers ▸ read)
    · rw [Eff.Does, textHandle_of_old stored fresh]
      exact ⟨.refl, trivial⟩

/-! ## The user's texts -/

theorem sendText_does {text : Str} (cause : input = .sendMessage text) (dialogId : Str)
    {s : Core w} (ready : Ready start s.view dialogId) :
    Eff.Does (Moves p env start input) (MessageActionHandler.sendText p env dialogId text) s
      fun r _ => r ≠ .error .terminated := by
  unfold MessageActionHandler.sendText
  cases found : s.mDialogStorage.find dialogId with
  | none =>
    rw [Eff.Does, Eff.bind_error (wrapper_of_none p found)]
    exact ⟨.refl, by simp⟩
  | some dialog =>
    obtain rfl := DialogStorage.mDialogId_of_find found
    rw [Eff.Does, Eff.bind_ok (wrapper_of_some p found)]
    cases contactFound : s.mContactStorage[dialog.mContactId]? with
    | none =>
      rw [Eff.bind_error (getContact_of_none p contactFound)]
      exact ⟨.refl, by simp⟩
    | some contact =>
      rw [Eff.bind_ok (getContact_of_some p contactFound), makeTextMessage]
      by_cases allowed : isMessageActionAllowed dialog.mStatus .message = true
      swap
      · obtain ⟨e, refused⟩ := makeMessage_of_refused p env (by simpa using allowed) contact text s
        rw [Eff.bind_error refused]
        exact ⟨.refl, by simp⟩
      rw [Eff.bind_ok (makeMessage_of_allowed p env allowed contact text s)]
      simp only [save, Eff.update_bind, Eff.readsOr_bind]
      have unsent := ready dialog found
      have active : dialog.mStatus = .active := isMessageActionAllowed_message.mp allowed
      have skipped : Moves p env start input s (s.saveDialog p dialog.makeNextSequental) := by
        refine .single ?_
        rw [Core.view_saveDialog]
        exact .skip unsent found
      cases encryptMessageBody p (s.saveDialog p dialog.makeNextSequental).mCiphers
          (requestMessage env .message dialog contact text).mDialogId
          (requestMessage env .message dialog contact text).mContent with
      | error e => exact ⟨skipped, by simp⟩
      | ok content =>
        simp only [MessageActionHandler.addToActiveDialogWithWrapper]
        rw [Eff.bind_assoc, Eff.reads_bind]
        cases (s.saveDialog p dialog.makeNextSequental).mMessageContainer.addToActiveDialogWithWrapper
            text false with
        | none => exact ⟨skipped, by simp⟩
        | some added =>
          obtain ⟨container, number⟩ := added
          simp only
          rw [Eff.bind_assoc, Eff.update_bind, Eff.pure_bind]
          have sending : ∀ (moniker : Str) (sign : Str) (sent : Bool), Move p env start input s.view
              (((s.view.setDialog dialog.makeNextSequental).store
                (dialog.mDialogId, dialog.mThisSequental + 1)
                (.messageNotDeliveried container.mActiveDialog number)).record [.handed moniker
                  (((requestMessage env .message dialog contact text).setContent content).setSignature
                    sign) sent]) := fun moniker sign sent =>
            .sendText cause unsent found active rfl rfl container.mActiveDialog sent rfl
          generalize shape : ({ s.saveDialog p dialog.makeNextSequental with
            mMessageContainer := container } : Core w) = s₁
          have view : s₁.view = s.view.setDialog dialog.makeNextSequental := by
            rw [← shape]
            exact Core.view_saveDialog p s dialog.makeNextSequental
          have skipped : Moves p env start input s s₁ := by
            refine .single ?_
            rw [view]
            exact .skip unsent found
          rcases sendMessage_cases env
              ((requestMessage env .message dialog contact text).setContent content)
              contact.channelMoniker (.messageNotDeliveried container.mActiveDialog number) s₁ with
            ⟨-, unconnected⟩ | ⟨e, -, unsigned⟩ | ⟨sign, wait, -, ⟨-, sent⟩ | ⟨e, -, failed⟩⟩
          · rw [unconnected]
            exact ⟨skipped, by simp⟩
          · rw [unsigned]
            exact ⟨skipped, by simp⟩
          · rw [sent]
            refine ⟨.single ?_, by simp⟩
            rw [Core.view_record, Core.view_store, view]
            exact sending _ sign true
          · rw [failed]
            refine ⟨.single ?_, by simp⟩
            rw [Core.view_record, Core.view_store, view]
            exact sending _ sign false

theorem sendMessage_does {text : Str} (cause : input = .sendMessage text) :
    Eff.Does (Moves p env start input) (MessageActionHandler.sendMessage p env text) start
      fun _ _ => True := by
  have sends : ∀ s : Core w, Noted start s → ∀ dialogId,
      Eff.Does (Moves p env start input)
        (Eff.catching (MessageActionHandler.sendText p env dialogId text) fun ex =>
          addMessage dialogId {
            mStatus := .error
            mType := .system
            mContent := p.text "Failed to send messsage, reason: \x7b\x7d" [ex.what] }) s
        fun _ _ => True := fun s noted dialogId =>
    (sendText_does cause dialogId (noted.ready dialogId)).catching
      (fun _ _ _ _ => Eff.Does.update .refl trivial) (fun _ _ _ _ => trivial) fun _ _ _ => trivial
  unfold MessageActionHandler.sendMessage
  rw [Eff.Does, Eff.reads_bind]
  by_cases none : start.mMessageContainer.mActiveDialog = []
  · rw [if_pos none]
    refine Eff.Does.bind (P := fun _ _ => True) (notify_does .error _ start)
      (fun _ s' _ notified => ?_) fun _ _ _ _ => trivial
    obtain rfl := notified.2
    exact sends _ (Noted.refl.record rfl) _
  · rw [if_neg none]
    exact sends start Noted.refl _

end

end SecureDialogues
