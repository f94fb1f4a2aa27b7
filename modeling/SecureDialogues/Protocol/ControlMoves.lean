import SecureDialogues.Protocol.DialogMoves

/-!
# The moves of an incoming control message

`DialogActionHandler::handle` with everything it calls. The handler runs in the state `start` up
to notes; where it fails it has sent nothing for the dialog yet, unless a transmission failed, and
so it may abort the dialog.
-/

namespace SecureDialogues

open Text Effect

section

variable {w : Nat} {p : Platform w} {env : Env w} {start : Core w} {input : Input w}
  {message : DialogMessage w} {channel : Str}

/-- The step has made notes and nothing else. -/
def Noted (start s : Core w) : Prop :=
  ∃ notes, s = { start with log := start.log ++ notes } ∧ ∀ event ∈ notes, event.isNote = true

theorem Noted.untouched {s : Core w} (noted : Noted start s) : Untouched start s.view := by
  obtain ⟨notes, rfl, note⟩ := noted
  exact ⟨rfl, rfl, rfl, notes, rfl, note⟩

theorem Noted.grown {s : Core w} (noted : Noted start s) : start.log.length ≤ s.log.length := by
  obtain ⟨notes, rfl, -⟩ := noted
  simp

theorem Noted.refl : Noted start start := ⟨[], by simp, by simp⟩

theorem Noted.record {s : Core w} (noted : Noted start s) {event : Event w}
    (note : event.isNote = true) : Noted start (s.record event) := by
  obtain ⟨notes, rfl, notes'⟩ := noted
  refine ⟨notes ++ [event], by simp [Core.record], fun e member => ?_⟩
  rcases List.mem_append.mp member with old | new
  · exact notes' e old
  · rw [List.mem_singleton] at new
    exact new ▸ note

theorem Noted.moves {s : Core w} (noted : Noted start s) : Moves p env start input start s := by
  obtain ⟨notes, rfl, note⟩ := noted
  induction notes using List.reverseRecOn with
  | nil =>
    rw [List.append_nil]
    exact refl_of (Moves p env start input) start
  | append_singleton notes event ih =>
    apply (ih fun e member => note e (by simp [member])).tail
    have noted : Move p env start input
        ({ start with log := start.log ++ notes } : Core w).view _ := .note (note event (by simp))
    rw [← Core.view_record] at noted
    simpa [Core.record] using noted

/-- A dialog of the state may be aborted: nothing was sent for it, or a transmission failed. -/
def MayAbort (p : Platform w) (env : Env w) (start : Core w) (input : Input w) (s : Core w)
    (dialogId : Str) : Prop :=
  Ready start s.view dialogId ∨ SentInVain p env start input s.view

theorem keyed_view (s : Core w) (dialogId : Str) (dialog : Dialog w)
    (found : s.view.dialogs dialogId = some dialog) : dialog.mDialogId = dialogId :=
  DialogStorage.mDialogId_of_find found

theorem notify_does (severity : Severity) (text : Str) (s : Core w) :
    Eff.Does (Moves p env start input) (notify severity text) s
      fun r s' => r = .ok () ∧ s' = s.record (.notified severity text) :=
  Eff.Does.update (.single (.note rfl)) ⟨rfl, rfl⟩

/-! ## Installing a cipher -/

theorem KeyStep.moves {s s' : Core w} {dialogId : Str} (step : KeyStep dialogId s s') :
    Moves p env start input s s' := by
  rcases step with rfl | ⟨element, rfl⟩
  · exact refl_of (Moves p env start input) _
  · cases present : s.mCiphers[dialogId]? with
    | none =>
      refine .single ?_
      rw [Core.view_emplaceCipher_of_none _ present]
      exact .install element present
    | some old =>
      rw [Core.emplaceCipher_of_some _ present]
      exact refl_of (Moves p env start input) _

theorem KeyStep.ready {s s' : Core w} {dialogId : Str} (step : KeyStep dialogId s s')
    (ready : Ready start s.view dialogId) : Ready start s'.view dialogId := by
  rcases step with rfl | ⟨element, rfl⟩
  · exact ready
  · cases present : s.mCiphers[dialogId]? with
    | none =>
      rw [Core.view_emplaceCipher_of_none _ present]
      exact ready.congr (keyed_view s dialogId) rfl rfl (by simp [handedStep])
    | some old =>
      rw [Core.emplaceCipher_of_some _ present]
      exact ready

theorem KeyStep.frame {s s' : Core w} {dialogId : Str} (step : KeyStep dialogId s s') :
    s'.mDialogStorage = s.mDialogStorage ∧ s'.mContactStorage = s.mContactStorage ∧
      s'.mRemote = s.mRemote ∧ s'.mChannels = s.mChannels ∧ s'.mRepo = s.mRepo := by
  rcases step with rfl | ⟨element, rfl⟩
  · exact ⟨rfl, rfl, rfl, rfl, rfl⟩
  · exact emplaceCipher_frame s dialogId element

/-! ## Aborting -/

/-- The ABORT for a dialog that is not stored is no move of a stored dialog. -/
theorem strayAbort_does (message : DialogMessage w) (channel : Str) {s : Core w}
    (unknown : s.mDialogStorage.find message.mDialogId = none) :
    Eff.Does (Moves p env start input) (sendAndForget env (strayAbort env message) channel) s
      fun r s' => s'.mDialogStorage = s.mDialogStorage ∧
        (r = .ok () ∨ ∃ e, r = .error (.thrown e)) := by
  rcases sendAndForget_cases env (strayAbort env message) channel s with
    ⟨e, -, outcome⟩ | ⟨-, outcome⟩ | ⟨sign, ⟨-, outcome⟩ | ⟨e, -, outcome⟩⟩
  · rw [Eff.Does, outcome]
    exact ⟨.refl, rfl, .inr ⟨e, rfl⟩⟩
  · rw [Eff.Does, outcome]
    exact ⟨.refl, rfl, .inl rfl⟩
  · rw [Eff.Does, outcome]
    exact ⟨.single (.strayAbort channel true unknown rfl), rfl, .inl rfl⟩
  · rw [Eff.Does, outcome]
    exact ⟨.single (.strayAbort channel false unknown rfl), rfl, .inr ⟨e, rfl⟩⟩

theorem prepareHandleException_does {s : Core w}
    (cause : AbortCause p env start input s.view message.mDialogId)
    (mayAbort : MayAbort p env start input s message.mDialogId)
    (grown : start.log.length ≤ s.log.length) :
    Eff.Does (Moves p env start input)
      (DialogActionHandler.prepareHandleException p env message channel) s fun _ _ => True := by
  unfold DialogActionHandler.prepareHandleException
  have body : Eff.Does (Moves p env start input) (do
      let dialogs ← Eff.reads (·.mDialogStorage)
      if dialogs.has message.mDialogId = true then
        DialogActionHandler.abortDialog p env message.mDialogId
      else sendAndForget env (strayAbort env message) channel : M w Unit) s fun _ _ => True := by
    rw [Eff.Does, Eff.reads_bind]
    cases stored : s.mDialogStorage.has message.mDialogId with
    | true =>
      rw [if_pos rfl]
      exact ⟨(abortDialog_does cause mayAbort grown).1, trivial⟩
    | false =>
      rw [if_neg (by simp)]
      exact ⟨(strayAbort_does message channel (has_eq_false.mp stored)).1, trivial⟩
  exact body.catching (fun _ _ _ _ => Eff.Does.pure trivial) (fun _ _ _ _ => trivial)
    fun _ _ _ => trivial

/-! ## A stored dialog -/

/-- The outcome of `prepareForFoundDialog`: if it throws, the dialog may be aborted and a VERIFY_KEY
is not answered, or its answer was not transmitted. -/
def Obeyed (p : Platform w) (env : Env w) (start : Core w) (input : Input w) (message : DialogMessage w)
    (r : Except (Fault Exn) Unit) (s' : Core w) : Prop :=
  ∀ e, r = .error (.thrown e) → MayAbort p env start input s' message.mDialogId ∧
    (message.mAction = .verifyKey → ¬ IsAnswered p env start message ∨ SendFails start s'.log)

/-- The state in which `prepareForFoundDialog` starts: the number was saved. -/
structure Taken (start : Core w) (message : DialogMessage w) (before dialog : Dialog w)
    (s : Core w) : Prop where
  found : start.mDialogStorage.find message.mDialogId = some before
  stored : s.mDialogStorage.find message.mDialogId = some dialog
  shape : dialog = { before with mPeerSequental := message.mSequentialNumber }
  fresh : before.mPeerSequental < message.mSequentialNumber
  contacts : s.mContactStorage = start.mContactStorage
  channels : s.mChannels = start.mChannels
  ciphers : s.mCiphers = start.mCiphers
  pending : s.view.pending = start.view.pending
  log : ∃ events, s.log = start.log ++ events

theorem Taken.grown {before dialog : Dialog w} {s : Core w}
    (taken : Taken start message before dialog s) : start.log.length ≤ s.log.length := by
  obtain ⟨events, log⟩ := taken.log
  simp [log]

theorem Taken.ready {before dialog : Dialog w} {s : Core w}
    (taken : Taken start message before dialog s) : Ready start s.view message.mDialogId := by
  intro other found
  obtain rfl : dialog = other := Option.some.inj (taken.stored.symm.trans found)
  refine ⟨taken.pending, .inl ⟨before, ?_, ?_, ?_⟩⟩
  · rw [DialogStorage.mDialogId_of_find taken.stored]
    exact taken.found
  · rw [taken.shape]
  · rw [taken.shape]

theorem prepareVerifyKey_does (cause : input = .dispatch message channel)
    (action : message.mAction = .verifyKey) (delivered : Delivered p env start message channel)
    {before dialog : Dialog w} {s : Core w}
    (taken : Taken start message before dialog s) :
    Eff.Does (Moves p env start input) (DialogActionHandler.prepareVerifyKey p env message) s
      fun r s' => ∀ e, r = .error (.thrown e) → MayAbort p env start input s' message.mDialogId := by
  unfold DialogActionHandler.prepareVerifyKey
  rw [Eff.Does, Eff.bind_ok (wrapper_of_some p taken.stored)]
  cases contactFound : s.mContactStorage[dialog.mContactId]? with
  | none =>
    rw [Eff.bind_error (getContact_of_none p contactFound)]
    exact ⟨.refl, fun _ _ => .inl taken.ready⟩
  | some contact =>
    rw [Eff.bind_ok (getContact_of_some p contactFound)]
    obtain ⟨r, s', imported, step, ⟨text, rfl⟩ | ⟨⟨e, rfl⟩, -⟩⟩ := importKey_cases p message s
    · rw [Eff.bind_ok imported]
      rw [DialogStorage.mDialogId_of_find taken.stored]
      have asks : Asks env input message.mDialogId .keyVerification .waitConfirm false :=
        cause ▸ .keyVerification channel action
      have ready := step.ready taken.ready
      have moved : Moves p env start input s s' := step.moves
      obtain ⟨-, contacts, -, channels, -⟩ := step.frame
      obtain ⟨moves, requested, -⟩ := sendRequest_does (p := p) asks contact.adress
        contact.channelMoniker text ready (contacts.trans taken.contacts)
        (channels.trans taken.channels) (taken.grown.trans moved.length_le)
      refine ⟨step.moves.trans moves, fun e thrown => ?_⟩
      rcases requested with ok | ⟨-, same | fails⟩
      · exact absurd (ok.symm.trans thrown) (by simp)
      · exact .inl (same.symm ▸ ready)
      · exact .inr (.answer cause (.inl action) delivered ⟨before, taken.found, taken.fresh⟩ fails)
    · rw [Eff.bind_error imported]
      exact ⟨step.moves, fun _ _ => .inl (step.ready taken.ready)⟩

/-- A request goes out where everything it needs is there, unless its transmission fails. -/
theorem sendRequest_ok_or_fails {dialogId : Str} {action : Action} {dialog : Dialog w} {contact : Contact}
    {s : Core w} (found : s.mDialogStorage.find dialogId = some dialog)
    (contactFound : s.mContactStorage[dialog.mContactId]? = some contact)
    (allowed : isMessageActionAllowed dialog.mStatus action = true)
    (control : DialogActionHandler.isItYouAction action = true)
    (signs : SignsRequest env start (requestMessage env action dialog contact))
    (log : ∃ events, s.log = start.log ++ events) (handler : DeliveryHandler) (content : Str) :
    (DialogActionHandler.sendRequest p env dialogId action handler content s).1 = .ok () ∨
      SendFails start
        (DialogActionHandler.sendRequest p env dialogId action handler content s).2.log := by
  unfold DialogActionHandler.sendRequest
  rw [Eff.bind_ok (wrapper_of_some p found), Eff.bind_ok (getContact_of_some p contactFound),
    Eff.bind_ok (makeMessage_of_allowed p env allowed contact content s)]
  rcases sendMessage_cases env (requestMessage env action dialog contact content)
      contact.channelMoniker handler s with
    ⟨-, skipped⟩ | ⟨e, unsigned, -⟩ | ⟨sign, wait, -, ⟨-, sent⟩ | ⟨e, -, failed⟩⟩
  · simp only
    rw [Eff.bind_ok skipped]
    exact .inl rfl
  · obtain ⟨events, log⟩ := log
    obtain ⟨sign, signed⟩ := signs events content
    rw [log, signed] at unsigned
    cases unsigned
  · simp only
    rw [Eff.bind_ok sent]
    exact .inl rfl
  · simp only
    rw [Eff.bind_error failed]
    refine .inr (sendFails ?_ _ control)
    obtain ⟨events, log⟩ := log
    simp [log]

/-- An answered VERIFY_KEY throws nothing, unless the answer is not transmitted. -/
theorem prepareVerifyKey_ok_or_fails {before dialog : Dialog w} {s : Core w}
    (taken : Taken start message before dialog s) (answered : IsAnswered p env start message) :
    (DialogActionHandler.prepareVerifyKey p env message s).1 = .ok () ∨
      SendFails start (DialogActionHandler.prepareVerifyKey p env message s).2.log := by
  obtain ⟨known, foundBefore, confirm, contact, contactFound, signs⟩ := answered.dialog
  obtain rfl : before = known := Option.some.inj (taken.found.symm.trans foundBefore)
  have sameContact : dialog.mContactId = before.mContactId := by rw [taken.shape]
  have sameStatus : dialog.mStatus = .waitConfirm := by rw [taken.shape]; exact confirm
  have contactFound : s.mContactStorage[dialog.mContactId]? = some contact := by
    rw [taken.contacts, sameContact]
    exact contactFound
  have imports : ImportsKey p s message := by
    unfold ImportsKey
    rw [taken.ciphers]
    exact answered.imports
  unfold DialogActionHandler.prepareVerifyKey
  rw [Eff.bind_ok (wrapper_of_some p taken.stored), Eff.bind_ok (getContact_of_some p contactFound)]
  obtain ⟨r, s', imported, step, ⟨text, rfl⟩ | ⟨-, refused⟩⟩ := importKey_cases p message s
  · rw [Eff.bind_ok imported]
    obtain ⟨dialogs, contacts, -⟩ := step.frame
    have stored : s'.mDialogStorage.find message.mDialogId = some dialog := dialogs ▸ taken.stored
    have allowed : isMessageActionAllowed dialog.mStatus .keyVerification = true :=
      isMessageActionAllowed_keyVerification.mpr sameStatus
    rw [← taken.shape] at signs
    refine sendRequest_ok_or_fails stored (contacts ▸ contactFound) allowed rfl signs ?_ _ _
    obtain ⟨events, log⟩ := taken.log
    have moved : Moves p env start .restart s s' := step.moves
    obtain ⟨later, log'⟩ := moved.log
    exact ⟨events ++ later, by rw [log', log, List.append_assoc]⟩
  · exact absurd imports refused

theorem prepareKeyVerification_does (cause : input = .dispatch message channel)
    (action : message.mAction = .keyVerification)
    (delivered : Delivered p env start message channel)
    {before dialog : Dialog w} {s : Core w} (taken : Taken start message before dialog s)
    (aborts : AbortCause p env start input s.view message.mDialogId) :
    Eff.Does (Moves p env start input) (DialogActionHandler.prepareKeyVerification p env message) s
      fun r s' => ∀ e, r = .error (.thrown e) → MayAbort p env start input s' message.mDialogId := by
  unfold DialogActionHandler.prepareKeyVerification
  rw [Eff.Does, Eff.readsOr_bind]
  cases checkVerificationString p s.mCiphers message.mDialogId message.mContent with
  | error e => exact ⟨.refl, fun _ _ => .inl taken.ready⟩
  | ok verified =>
    cases verified with
    | true =>
      simp only [if_true]
      rw [Eff.bind_ok (wrapper_of_some p taken.stored)]
      cases contactFound : s.mContactStorage[dialog.mContactId]? with
      | none =>
        rw [Eff.bind_error (getContact_of_none p contactFound)]
        exact ⟨.refl, fun _ _ => .inl taken.ready⟩
      | some contact =>
        rw [Eff.bind_ok (getContact_of_some p contactFound),
          DialogStorage.mDialogId_of_find taken.stored]
        have asks : Asks env input message.mDialogId .acceptDialog .active true :=
          cause ▸ .accept channel action
        obtain ⟨moves, requested, -⟩ := sendRequest_does (p := p) asks contact.adress
          contact.channelMoniker [] taken.ready taken.contacts taken.channels taken.grown
        refine ⟨moves, fun e thrown => ?_⟩
        rcases requested with ok | ⟨-, same | fails⟩
        · exact absurd (ok.symm.trans thrown) (by simp)
        · exact .inl (same.symm ▸ taken.ready)
        · exact .inr (.answer cause (.inr action) delivered ⟨before, taken.found, taken.fresh⟩ fails)
    | false =>
      simp only [Bool.false_eq_true, if_false]
      -- An exception of `abortDialog` leaves it to `prepareHandleException` to try once more.
      show Eff.Does (Moves p env start input) (_ >>= _) s fun r s' =>
        ∀ e, r = .error (.thrown e) → MayAbort p env start input s' message.mDialogId
      refine (abortDialog_does aborts (.inl taken.ready) taken.grown).bind (fun _ s' _ _ => ?_) ?_
      · exact ⟨.single (.note rfl), fun e thrown => by cases thrown⟩
      · intro fault s' _ outcome e _
        rcases outcome.1 with ok | ⟨-, rfl | fails⟩
        · cases ok
        · exact .inl taken.ready
        · exact .inr (.answer cause (.inr action) delivered ⟨before, taken.found, taken.fresh⟩ fails)

theorem prepareStatusChange_does (cause : input = .dispatch message channel)
    (control : DialogActionHandler.isItYouAction message.mAction = true)
    (delivered : Delivered p env start message channel)
    (other : message.mAction ≠ .verifyKey ∧ message.mAction ≠ .keyVerification)
    {before dialog : Dialog w} {s : Core w} (taken : Taken start message before dialog s) :
    Eff.Does (Moves p env start input) (DialogActionHandler.prepareStatusChange p message) s
      fun r s' => ∀ e, r = .error (.thrown e) → MayAbort p env start input s' message.mDialogId := by
  unfold DialogActionHandler.prepareStatusChange
  rw [Eff.Does, Eff.bind_ok (wrapper_of_some p taken.stored)]
  cases contactFound : s.mContactStorage[dialog.mContactId]? with
  | none =>
    rw [Eff.bind_error (getContact_of_none p contactFound)]
    exact ⟨.refl, fun _ _ => .inl taken.ready⟩
  | some contact =>
    rw [Eff.bind_ok (getContact_of_some p contactFound)]
    cases mapped : DialogActionHandler.map p message.mAction with
    | none => exact ⟨.refl, fun _ thrown => by cases thrown⟩
    | some status =>
      simp only
      have named : dialog.mDialogId = message.mDialogId := DialogStorage.mDialogId_of_find taken.stored
      cases allowed : isStateTransitionAllowed dialog.mStatus status with
      | false =>
        obtain ⟨e, refused⟩ := setStatus_of_refused p allowed s
        rw [Eff.bind_error refused]
        exact ⟨.refl, fun _ _ => .inl taken.ready⟩
      | true =>
        rw [Eff.bind_ok (setStatus_of_allowed p allowed s)]
        refine ⟨?_, fun _ thrown => by cases thrown⟩
        have changed : Move p env start input s.view (s.view.setDialog (dialog.withStatus status)) := by
          refine .peerStatus cause control delivered other mapped named.symm
            ?_ taken.fresh ?_ ?_ ?_ (taken.ready dialog taken.stored) ?_ allowed
          · rw [named]
            exact taken.found
          · rw [taken.shape]
          · funext dialogId
            simp [taken.ciphers]
          · have sameContact : dialog.mContactId = before.mContactId := by rw [taken.shape]
            rw [← taken.contacts, ← sameContact]
            exact ⟨contact, contactFound⟩
          · rw [named]
            exact taken.stored
        rw [← Core.view_saveDialog p] at changed
        exact .tail (.single changed) (.note rfl)

theorem prepareForFoundDialog_does (cause : input = .dispatch message channel)
    (control : DialogActionHandler.isItYouAction message.mAction = true)
    (delivered : Delivered p env start message channel) {before dialog : Dialog w} {s : Core w}
    (taken : Taken start message before dialog s) :
    Eff.Does (Moves p env start input) (DialogActionHandler.prepareForFoundDialog p env message) s
      (Obeyed p env start input message) := by
  unfold DialogActionHandler.prepareForFoundDialog
  by_cases verifyKey : message.mAction = .verifyKey
  · rw [if_pos verifyKey]
    obtain ⟨moves, thrown⟩ := prepareVerifyKey_does cause verifyKey delivered taken
    refine ⟨moves, fun e failed => ⟨thrown e failed, fun _ => ?_⟩⟩
    by_cases answered : IsAnswered p env start message
    swap
    · exact .inl answered
    rcases prepareVerifyKey_ok_or_fails taken answered with ok | fails
    · rw [failed] at ok
      cases ok
    · exact .inr fails
  rw [if_neg verifyKey]
  have notAnswered : ∀ log : List (Event w), message.mAction = .verifyKey →
      ¬ IsAnswered p env start message ∨ SendFails start log := fun _ action => absurd action verifyKey
  by_cases keyVerification : message.mAction = .keyVerification
  · rw [if_pos keyVerification]
    have aborts : AbortCause p env start input s.view message.mDialogId :=
      .control cause control delivered (fun _ => ⟨before, taken.found, taken.fresh⟩) (notAnswered _)
    obtain ⟨moves, thrown⟩ := prepareKeyVerification_does cause keyVerification delivered taken aborts
    exact ⟨moves, fun e failed => ⟨thrown e failed, notAnswered _⟩⟩
  · rw [if_neg keyVerification]
    obtain ⟨moves, thrown⟩ :=
      prepareStatusChange_does cause control delivered ⟨verifyKey, keyVerification⟩ taken
    exact ⟨moves, fun e failed => ⟨thrown e failed, notAnswered _⟩⟩

/-! ## A dialog that is not stored -/

theorem answerCreateDialog_does (cause : input = .dispatch message channel)
    (action : message.mAction = .createDialog) (delivered : Delivered p env start message channel)
    {s : Core w} (noted : Noted start s)
    (unknown : s.mDialogStorage.find message.mDialogId = none) {contact : Contact}
    {rest : List Contact} (known : DialogActionHandler.contactsAt start.mContactStorage
      message.mAdress channel = contact :: rest) :
    Eff.Does (Moves p env start input)
      (DialogActionHandler.answerCreateDialog p env message contact) s
      fun r s' => ∀ e, r = .error (.thrown e) → MayAbort p env start input s' message.mDialogId := by
  unfold DialogActionHandler.answerCreateDialog
  simp only
  generalize shape : (Dialog.ofPeer env.initSequental contact.id message.mDialogId
    message.mSequentialNumber .createRequest : Dialog w) = dialog
  have named : dialog.mDialogId = message.mDialogId := by rw [← shape]; rfl
  have status : dialog.mStatus = .createRequest := by rw [← shape]; rfl
  rw [← named] at unknown ⊢
  have opened : Moves p env start input s (s.addDialog dialog) := by
    refine .single ?_
    rw [Core.view_addDialog]
    exact .createByPeer cause action delivered noted.untouched (named ▸ unknown) known shape.symm
  have found : (s.addDialog dialog).mDialogStorage.find dialog.mDialogId = some dialog :=
    DialogStorage.find_put_self dialog
  have ready : Ready start (s.addDialog dialog).view dialog.mDialogId := by
    intro other same
    obtain rfl : dialog = other := Option.some.inj (found.symm.trans same)
    rw [Core.view_addDialog]
    exact ⟨noted.untouched.pending, .inr (by simp [handedStep])⟩
  rw [Eff.Does, Eff.bind_ok (addDialog_of_new p (has_eq_false.mpr unknown)),
    Eff.bind_ok (wrapper_of_some p found)]
  have remote : (s.addDialog dialog).mRemote = start.mRemote := by
    obtain ⟨notes, rfl, -⟩ := noted
    rfl
  have channels : (s.addDialog dialog).mChannels = start.mChannels := by
    obtain ⟨notes, rfl, -⟩ := noted
    rfl
  have absent : start.mDialogStorage.find dialog.mDialogId = none := by
    obtain ⟨notes, rfl, -⟩ := noted
    exact unknown
  generalize s.addDialog dialog = s₁ at opened found ready remote channels
  obtain ⟨r, s', exported, step, ⟨⟨text, rfl⟩, exports⟩ | ⟨⟨e, rfl⟩, -⟩⟩ :=
    generateAndExportKey_cases p env dialog.mDialogId contact.adress s₁
  swap
  · rw [Eff.bind_error exported]
    exact ⟨opened.trans step.moves, fun _ _ => .inl (step.ready ready)⟩
  rw [Eff.bind_ok exported]
  obtain ⟨dialogs, -, -, sameChannels, -⟩ := step.frame
  have allowed : isMessageActionAllowed dialog.mStatus .verifyKey = true :=
    isMessageActionAllowed_verifyKey.mpr status
  rw [Eff.bind_ok (makeMessage_of_allowed p env allowed contact text s')]
  simp only [DeliveryHandler.forWaitVerificationDialogRequest, Dialog.makeNextSequental_mDialogId]
  have moved := opened.trans step.moves
  have ready := step.ready ready
  have exports : ExportsKey p env start contact.adress := by
    unfold ExportsKey at exports ⊢
    rwa [remote] at exports
  have answered : contact.channelMoniker ∈ s'.mChannels →
      IsAnsweredWithKey p env start message channel := fun connected =>
    ⟨action, delivered, named ▸ absent, contact, rest, known, channels ▸ sameChannels ▸ connected,
      exports⟩
  have answers : ∀ (sent : Bool) (answer : DialogMessage w), contact.channelMoniker ∈ s'.mChannels →
      answer.mAction = .verifyKey → Move p env start input s'.view
        ((s'.view.store (dialog.mDialogId, dialog.mThisSequental + 1)
          (.dialogAction dialog.mDialogId .waitKeyVerificaion true contact.adress
            contact.channelMoniker)).record [.handed contact.channelMoniker answer sent]) := by
    intro sent answer connected answers
    have stored : s'.view.dialogs dialog.mDialogId = some dialog := by
      rw [Core.view_dialogs, dialogs]
      exact found
    exact .verifyKey cause (answered connected) named.symm (ready dialog stored) stored status sent
      answers
  rcases sendMessage_cases env (requestMessage env .verifyKey dialog contact text)
      contact.channelMoniker
      (.dialogAction dialog.mDialogId .waitKeyVerificaion true contact.adress
        contact.channelMoniker) s' with
    ⟨-, skipped⟩ | ⟨e, -, unsigned⟩ | ⟨sign, wait, connected, ⟨-, sent⟩ | ⟨e, failed, unsent⟩⟩
  · rw [skipped]
    exact ⟨moved, fun _ thrown => by cases thrown⟩
  · rw [unsigned]
    exact ⟨moved, fun _ _ => .inl ready⟩
  · rw [sent]
    refine ⟨moved.tail ?_, fun _ thrown => by cases thrown⟩
    rw [Core.view_record, Core.view_store]
    exact answers true _ connected rfl
  · rw [unsent]
    refine ⟨moved.tail ?_, fun _ _ => .inr (.create cause (answered connected) ?_)⟩
    · rw [Core.view_record, Core.view_store]
      exact answers false _ connected rfl
    · exact sendFails (noted.grown.trans (Moves.length_le moved)) _ rfl

/-- `prepareNotFoundDialog` throws only where the dialog may still be aborted. -/
theorem prepareNotFoundDialog_does (cause : input = .dispatch message channel)
    (delivered : Delivered p env start message channel) {s : Core w} (noted : Noted start s)
    (unknown : s.mDialogStorage.find message.mDialogId = none) :
    Eff.Does (Moves p env start input)
      (DialogActionHandler.prepareNotFoundDialog p env message channel) s
      fun r s' => ∀ e, r = .error (.thrown e) → MayAbort p env start input s' message.mDialogId := by
  have stray : ∀ s₁ : Core w, s₁.mDialogStorage.find message.mDialogId = none →
      Eff.Does (Moves p env start input) (sendAndForget env (strayAbort env message) channel) s₁
        fun r s' => ∀ e, r = .error (.thrown e) → MayAbort p env start input s' message.mDialogId := by
    intro s₁ missing
    refine (strayAbort_does message channel missing).mono fun _ s' _ outcome _ _ => .inl ?_
    intro dialog found
    rw [Core.view_dialogs, outcome.1, missing] at found
    cases found
  unfold DialogActionHandler.prepareNotFoundDialog
  by_cases abort : message.mAction = .abort
  · rw [if_pos abort]
    exact .pure fun _ thrown => by cases thrown
  rw [if_neg abort]
  by_cases action : message.mAction = .createDialog
  swap
  · rw [if_neg action]
    exact stray s unknown
  rw [if_pos action, Eff.Does, Eff.reads_bind]
  have sameContacts : s.mContactStorage = start.mContactStorage := by
    obtain ⟨notes, rfl, -⟩ := noted
    rfl
  rw [sameContacts]
  cases known : DialogActionHandler.contactsAt start.mContactStorage message.mAdress channel with
  | cons contact rest => exact answerCreateDialog_does cause action delivered noted unknown known
  | nil =>
    show Eff.Does (Moves p env start input) (_ >>= _) s fun r s' =>
      ∀ e, r = .error (.thrown e) → MayAbort p env start input s' message.mDialogId
    refine Eff.Does.bind (notify_does _ _ s) (fun _ s' _ notified => stray s' ?_)
      fun _ _ _ notified => by cases notified.1
    rw [notified.2]
    exact unknown

/-! ## The handler -/

/-- The state in which `prepareForFoundDialog` starts. -/
def takenState (p : Platform w) (message : DialogMessage w) (dialog : Dialog w) (s : Core w) :
    Core w :=
  (s.saveDialog p { dialog with mPeerSequental := message.mSequentialNumber }).record
    (.controlTaken message.mDialogId message.mSequentialNumber)

/-- The handler for a fresh message of a stored dialog. -/
theorem controlHandle_of_fresh {dialog : Dialog w} {s : Core w}
    (found : s.mDialogStorage.find message.mDialogId = some dialog)
    (fresh : dialog.mPeerSequental < message.mSequentialNumber) :
    DialogActionHandler.handle p env message channel s =
      Eff.catching (DialogActionHandler.prepareForFoundDialog p env message)
        (fun _ => DialogActionHandler.prepareHandleException p env message channel)
        (takenState p message dialog s) := by
  have accepted := Dialog.isSequentalOk_eq_some.mpr ⟨fresh, rfl⟩
  refine Eff.catching_congr ?_ _
  rw [Eff.reads_bind, if_pos (has_iff.mpr ⟨dialog, found⟩), Eff.bind_ok (wrapper_of_some p found),
    accepted]
  rfl

/-- The handler for a message of a stored dialog that is not fresh. -/
theorem controlHandle_of_old {dialog : Dialog w} {s : Core w}
    (found : s.mDialogStorage.find message.mDialogId = some dialog)
    (old : ¬ dialog.mPeerSequental < message.mSequentialNumber) :
    DialogActionHandler.handle p env message channel s = (.ok (), s) := by
  have refused := Dialog.isSequentalOk_eq_none.mpr old
  unfold DialogActionHandler.handle
  rw [Eff.catching_ok]
  rw [Eff.reads_bind, if_pos (has_iff.mpr ⟨dialog, found⟩), Eff.bind_ok (wrapper_of_some p found),
    refused]
  rfl

/-- The handler for a message of a dialog that is not stored. -/
theorem controlHandle_of_unknown {s : Core w}
    (unknown : s.mDialogStorage.find message.mDialogId = none) :
    DialogActionHandler.handle p env message channel s =
      Eff.catching (DialogActionHandler.prepareNotFoundDialog p env message channel)
        (fun _ => DialogActionHandler.prepareHandleException p env message channel) s := by
  refine Eff.catching_congr ?_ _
  rw [Eff.reads_bind, if_neg (by simp [has_eq_false.mpr unknown])]

theorem Noted.taken {s : Core w} (noted : Noted start s) {dialog : Dialog w}
    (found : start.mDialogStorage.find message.mDialogId = some dialog)
    (fresh : dialog.mPeerSequental < message.mSequentialNumber) :
    Taken start message dialog { dialog with mPeerSequental := message.mSequentialNumber }
      (takenState p message dialog s) := by
  obtain ⟨notes, rfl, -⟩ := noted
  refine ⟨found, ?_, rfl, fresh, rfl, rfl, rfl, rfl, ?_⟩
  swap
  · exact ⟨notes ++ [.controlTaken message.mDialogId message.mSequentialNumber], by
      simp [takenState, Core.record, Core.saveDialog]⟩
  rw [← DialogStorage.mDialogId_of_find found]
  exact DialogStorage.find_put_self { dialog with mPeerSequental := message.mSequentialNumber }

/-- What follows once the message is accepted. -/
theorem takenControl_does (cause : input = .dispatch message channel)
    (control : DialogActionHandler.isItYouAction message.mAction = true)
    (delivered : Delivered p env start message channel) {before dialog : Dialog w} {s : Core w}
    (taken : Taken start message before dialog s) :
    Eff.Does (Moves p env start input)
      (Eff.catching (DialogActionHandler.prepareForFoundDialog p env message)
        fun _ => DialogActionHandler.prepareHandleException p env message channel) s
      fun _ _ => True := by
  refine (prepareForFoundDialog_does cause control delivered taken).catching
    (fun e s' moves obeyed => ?_) (fun _ _ _ _ => trivial) fun _ _ _ => trivial
  obtain ⟨mayAbort, unanswered⟩ := obeyed e rfl
  exact prepareHandleException_does (.control cause control delivered
    (fun _ => ⟨before, taken.found, taken.fresh⟩) unanswered) mayAbort
    (taken.grown.trans (Moves.length_le moves))

theorem controlHandle_does (cause : input = .dispatch message channel)
    (control : DialogActionHandler.isItYouAction message.mAction = true)
    (delivered : Delivered p env start message channel) {s : Core w} (noted : Noted start s) :
    Eff.Does (Moves p env start input) (DialogActionHandler.handle p env message channel) s
      fun _ _ => True := by
  have sameDialogs : s.mDialogStorage = start.mDialogStorage := by
    obtain ⟨notes, rfl, -⟩ := noted
    rfl
  cases stored : s.mDialogStorage.find message.mDialogId with
  | none =>
    rw [Eff.Does, controlHandle_of_unknown stored]
    refine (prepareNotFoundDialog_does cause delivered noted stored).catching
      (fun e s' moves mayAbort => prepareHandleException_does ?_ (mayAbort e rfl)
        (noted.grown.trans (Moves.length_le moves))) (fun _ _ _ _ => trivial) fun _ _ _ => trivial
    rw [sameDialogs] at stored
    refine .control cause control delivered (fun found => ?_) fun _ => .inl fun answered => ?_
    · rw [has_eq_false.mpr stored] at found
      cases found
    · obtain ⟨dialog, found, -⟩ := answered.dialog
      rw [stored] at found
      cases found
  | some dialog =>
    by_cases fresh : dialog.mPeerSequental < message.mSequentialNumber
    · have taking : Move p env start input s.view (takenState p message dialog s).view := by
        rw [takenState, Core.view_record, Core.view_saveDialog]
        exact .takeControl cause control delivered noted.untouched stored fresh
      have taken : Taken start message dialog _ (takenState p message dialog s) :=
        noted.taken (sameDialogs ▸ stored) fresh
      obtain ⟨moves, -⟩ := takenControl_does cause control delivered taken
      rw [Eff.Does, controlHandle_of_fresh stored fresh]
      exact ⟨.head taking moves, trivial⟩
    · rw [Eff.Does, controlHandle_of_old stored fresh]
      exact ⟨.refl, trivial⟩

end

end SecureDialogues
