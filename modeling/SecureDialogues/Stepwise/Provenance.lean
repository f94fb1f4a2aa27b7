import SecureDialogues.Stepwise.Findings

/-!
# Every operation sends only what it has found out

The walk through the operations that run at the same time: each of them keeps the discipline of
findings, whatever it has found out before.
-/

namespace SecureDialogues

open Text Effect

section

variable {w : Nat} (p : Platform w) (env : Env w) {routed : Prop} {contacts : Table Contact}
  {turns : List (Threads.Turn w)} {notes : Findings w}

/-- A step that is followed by more. -/
theorem traceStep {a : Atom w} {α : Type} {f : a.Result → Steps w α}
    (allowed : (provenance routed contacts turns).guard notes a)
    (rest : ∀ x, (provenance routed contacts turns).possible notes a (.ok x) →
      Traces routed contacts turns ((provenance routed contacts turns).note notes a (.ok x)) (f x)) :
    Traces routed contacts turns notes (Prog.atom a >>= f) :=
  Prog.Obeys.step allowed rest fun _ _ => trivial

/-- A last step. -/
theorem traceAtom {a : Atom w} (allowed : (provenance routed contacts turns).guard notes a) :
    Traces routed contacts turns notes (Prog.atom a : Steps w a.Result) :=
  Prog.Obeys.atom allowed fun _ _ => trivial

/-- What comes after a part still has the findings from before. -/
theorem Traces.andThen {α β : Type} {m : Steps w α} {f : α → Steps w β}
    (first : Traces routed contacts turns notes m)
    (rest : ∀ x notes', notes ≤ notes' → Traces routed contacts turns notes' (f x)) :
    Traces routed contacts turns notes (m >>= f) :=
  Prog.Obeys.thenGrown (provenance_grows routed contacts turns) first rest

/-- The read of a dialog's record. -/
theorem traceWrapper {dialogId : Str} {α : Type} {f : Dialog w → Steps w α}
    (rest : ∀ (dialog : Dialog w) (notes' : Findings w), dialog.mDialogId = dialogId →
      notes ≤ notes' → notes'.bound dialogId = some dialog.mContactId →
      Traces routed contacts turns notes' (f dialog)) :
    Traces routed contacts turns notes (Prog.atom (.wrapper dialogId) >>= f) := by
  refine traceStep trivial ?_
  rintro dialog ⟨sameId, consistent⟩
  apply rest dialog _ sameId
  · exact Findings.le_bind consistent
  · exact Findings.bound_bind_self _ _

namespace Steps

/-! ## Sending -/

theorem traces_sendMessage {message : DialogMessage w} {channelName : Str}
    {deliveryHandler : DeliveryHandler} (unsigned : message.mSign = signField message.mAction)
    (seals : notes.Seals message.mAction message.mDialogId message.mAdress message.mContent)
    (reaches : routed → notes.Reaches contacts message.mDialogId message.mAdress channelName)
    (mayStore : routed → notes.MayStore contacts deliveryHandler) :
    Traces routed contacts turns notes (sendMessage message channelName deliveryHandler) := by
  refine traceStep trivial ?_
  intro found _
  cases found with
  | none => trivial
  | some waitAckInterval =>
    refine traceStep trivial ?_
    intro sign _
    have later : notes ≤ notes.add (.signature (message.setSignature sign) message.mSign) :=
      Findings.le_add _
    refine traceStep (fun route => (mayStore route).mono later) ?_
    intro _ _
    apply traceAtom
    refine ⟨?_, seals.mono later, fun route => .inl ((reaches route).mono later)⟩
    show Finding.signature _ (signField message.mAction) ∈ _
    rw [← unsigned]
    exact List.mem_cons_self

theorem traces_sendAndForget {message : DialogMessage w} {channelName : Str}
    (unsigned : message.mSign = signField message.mAction)
    (seals : notes.Seals message.mAction message.mDialogId message.mAdress message.mContent)
    (goes : routed → notes.Reaches contacts message.mDialogId message.mAdress channelName ∨
      Answers turns message channelName ∨
      Reports turns message channelName ∧
        ∃ mChannel, notes.Reaches contacts message.mDialogId message.mAdress mChannel) :
    Traces routed contacts turns notes (sendAndForget message channelName) := by
  refine traceStep trivial ?_
  intro sign _
  have later : notes ≤ notes.add (.signature (message.setSignature sign) message.mSign) :=
    Findings.le_add _
  refine traceStep trivial ?_
  intro found _
  cases found with
  | none => trivial
  | some waitAckInterval =>
    apply traceAtom
    refine ⟨?_, seals.mono later, ?_⟩
    · show Finding.signature _ (signField message.mAction) ∈ _
      rw [← unsigned]
      exact List.mem_cons_self
    intro route
    rcases goes route with reaches | answers | ⟨reports, mChannel, reaches⟩
    · exact .inl (reaches.mono later)
    · exact .inr (.inl answers)
    · exact .inr (.inr ⟨reports, mChannel, reaches.mono later⟩)

/-- The ABORT to the contact of a dialog. -/
theorem traces_sendAbort {timestamp number : BitVec w} {dialogId address channel : Str}
    (reaches : routed → notes.Reaches contacts dialogId address channel) :
    Traces routed contacts turns notes
      (sendAndForget (makeAbort timestamp dialogId address number) channel) :=
  traces_sendAndForget rfl rfl fun route => .inl (reaches route)

/-- The ABORT for a dialog that is not stored goes back. -/
theorem traces_sendStray {message : DialogMessage w} {channel : Str}
    (came : Came turns message channel) :
    Traces routed contacts turns notes (sendAndForget (strayAbort env message) channel) :=
  traces_sendAndForget rfl rfl fun _ => .inr (.inl ⟨.inr rfl, message, came, rfl, rfl⟩)

theorem traces_sendAck {message : DialogMessage w} {channel : Str}
    (came : Came turns message channel) :
    Traces routed contacts turns notes (sendAck env message channel) := by
  refine traceStep trivial ?_
  intro connected _
  split
  · exact traces_sendAndForget rfl rfl fun _ => .inr (.inl ⟨.inl rfl, message, came, rfl, rfl⟩)
  · trivial

/-- `make_message` returns a message of its dialog for its contact, which is no ACK. -/
theorem traces_makeMessage {action : Action} {dialog : Dialog w} {contact : Contact}
    {content : Str} {α : Type} {f : DialogMessage w × Dialog w → Steps w α}
    (rest : action ≠ .ack → Traces routed contacts turns notes
      (f (requestMessage env action dialog contact content, dialog.makeNextSequental))) :
    Traces routed contacts turns notes (makeMessage p env action dialog contact content >>= f) := by
  unfold makeMessage
  split
  · rename_i allowed
    exact rest (ne_ack_of_allowed allowed)
  · trivial

theorem traces_setStatus {dialog : Dialog w} {status : Status} {α : Type}
    {f : Dialog w → Steps w α} (rest : Traces routed contacts turns notes (f (dialog.withStatus status))) :
    Traces routed contacts turns notes (setStatus p dialog status >>= f) := by
  unfold setStatus
  split
  · exact rest
  · trivial

/-! ## Delivery callbacks -/

theorem traces_removed (handler : DeliveryHandler) :
    Traces routed contacts turns notes (removed p handler) := by
  cases handler with
  | dialogAction dialogId mNext mAbortNeed mAddress mChannel =>
    apply traceWrapper
    intro dialog notes' sameId _ seen
    apply traces_setStatus
    apply traceAtom
    show notes'.bound dialog.mDialogId = some dialog.mContactId
    rw [sameId, seen]
  | messageNotDeliveried dialogId number => exact traceAtom trivial

theorem traces_timeouted {handler : DeliveryHandler}
    (known : routed → notes.MayStore contacts handler) :
    Traces routed contacts turns notes (timeouted p env handler) := by
  cases handler with
  | dialogAction dialogId mNext mAbortNeed mAddress mChannel =>
    apply traceWrapper
    intro dialog notes' sameId later seen
    have ends : ∀ (changed : Dialog w) (notes'' : Findings w), notes' ≤ notes'' →
        changed.mDialogId = dialogId → changed.mContactId = dialog.mContactId →
        Traces routed contacts turns notes'' (do
          step (.notify .error
            (p.text "Dialog with \x7b\x7d was removed because participant didn't respond" [mAddress]))
          let changed ← setStatus p changed .aborted
          step (.saveDialog changed)) := by
      intro changed notes'' later' sameDialog sameContact
      refine traceStep trivial ?_
      intro _ _
      apply traces_setStatus
      apply traceAtom
      show notes''.bound changed.mDialogId = some changed.mContactId
      rw [sameDialog, sameContact]
      exact later'.1 _ _ seen
    cases mAbortNeed with
    | true =>
      apply Traces.andThen
      · apply traces_sendAbort
        rw [Dialog.makeNextSequental_mDialogId, sameId]
        intro route
        exact Findings.Reaches.mono later (known route)
      · intro _ notes'' later'
        exact ends dialog.makeNextSequental notes'' later' sameId rfl
    | false => exact ends dialog notes' (le_refl _) sameId rfl
  | messageNotDeliveried dialogId number => exact traceAtom trivial

theorem traces_removeEntry (k : NumberedKey w) :
    Traces routed contacts turns notes (removeEntry p k) := by
  refine traceStep trivial ?_
  intro found _
  cases found with
  | none => trivial
  | some stored =>
    apply Traces.andThen (traces_removed p _)
    intro _ _ _
    refine traceStep trivial ?_
    intro _ _
    trivial

theorem traces_expireEntry (k : NumberedKey w) :
    Traces routed contacts turns notes (expireEntry p env k) := by
  apply Prog.Obeys.noexcept
  refine traceStep trivial ?_
  intro found _
  cases found with
  | none => trivial
  | some handler =>
    have expired : Traces routed contacts turns
        ((provenance routed contacts turns).note notes (.overdueDelivery k) (.ok (some handler)))
        (timeouted p env handler) := by
      apply traces_timeouted
      intro _
      cases handler with
      | dialogAction => exact .inl List.mem_cons_self
      | messageNotDeliveried => trivial
    apply expired.andThen
    intro _ _ _
    exact traceAtom trivial

/-! ## Texts -/

namespace MessageActionHandler

/-- The ABORT goes to the contact, over the channel that the message has come over. -/
theorem traces_abortStored {message : DialogMessage w} {channel : Str}
    (came : Came turns message channel) :
    Traces routed contacts turns notes (abortStored p env message channel) := by
  apply traceWrapper
  intro dialog notes' sameId _ seen
  refine traceStep trivial ?_
  intro contact stored
  apply traces_setStatus
  rw [← sameId] at seen
  apply Traces.andThen
  · have reaches := Findings.reaches_of_seen seen stored
    exact traces_sendAndForget rfl rfl fun _ =>
      .inr (.inr ⟨⟨rfl, message, came, sameId.symm⟩, contact.channelMoniker, reaches⟩)
  · intro _ _ later
    apply traceAtom
    exact later.1 _ _ seen

theorem traces_abortOnException {message : DialogMessage w} {channel : Str}
    (came : Came turns message channel) :
    Traces routed contacts turns notes (abortOnException p env message channel) := by
  apply Prog.Obeys.attempt
  · refine traceStep trivial ?_
    intro _ _
    refine traceStep trivial ?_
    intro stored _
    split
    · exact traces_abortStored p env came
    · exact traces_sendStray env came
  · intro e notes'
    trivial

theorem traces_acceptText (message : DialogMessage w) :
    Traces routed contacts turns notes (acceptText message) := by
  refine traceStep trivial ?_
  intro content _
  refine traceStep trivial ?_
  intro _ _
  exact traceAtom trivial

theorem traces_handle {message : DialogMessage w} {channel : Str}
    (came : Came turns message channel) :
    Traces routed contacts turns notes (handle p env message channel) := by
  apply Prog.Obeys.attempt
  · refine traceStep trivial ?_
    intro stored _
    split
    · apply traceWrapper
      intro dialog notes' _ _ _
      cases dialog.isSequentalOk message.mSequentialNumber with
      | none => trivial
      | some next => exact traces_acceptText message
    · refine traceStep trivial ?_
      intro _ _
      exact traces_sendStray env came
  · intro e notes'
    exact traces_abortOnException p env came

/-- The text that was typed is sent encrypted. -/
theorem traces_sendText (dialogId : Str) {message : Str} (typed : Typed turns message) :
    Traces routed contacts turns notes (sendText p env dialogId message) := by
  apply traceWrapper
  intro dialog notes' sameId _ seen
  refine traceStep trivial ?_
  intro contact stored
  apply traces_makeMessage
  intro _
  rw [← sameId] at seen
  refine traceStep seen ?_
  intro _ _
  refine traceStep typed ?_
  intro content _
  refine traceStep trivial ?_
  rintro handler ⟨otherId, number, rfl⟩
  apply traces_sendMessage rfl
  · exact List.mem_cons_self
  · exact fun _ => Findings.reaches_of_seen seen stored
  · exact fun _ => trivial

theorem traces_sendMessage {message : Str} (typed : Typed turns message) :
    Traces routed contacts turns notes (sendMessage p env message) := by
  have sends : ∀ (notes : Findings w) (dialogId : Str), Traces routed contacts turns notes
      ((sendText p env dialogId message).catching fun ex =>
        step (.addMessage dialogId {
          mStatus := .error
          mType := .system
          mContent := p.text "Failed to send messsage, reason: {}" [ex.what] })) := by
    intro notes dialogId
    apply Prog.Obeys.attempt
    · exact traces_sendText p env dialogId typed
    · intro e notes'
      exact traceAtom trivial
  refine traceStep trivial ?_
  intro dialogId _
  dsimp only
  split
  · refine traceStep trivial ?_
    intro _ _
    exact sends notes dialogId
  · exact sends notes dialogId

end MessageActionHandler

/-! ## Control messages and the user's dialog operations -/

namespace DialogActionHandler

theorem traces_sendRequest {dialogId : Str} {action : Action} {handler : DeliveryHandler}
    {content : Str} (seals : ∀ address, notes.Seals action dialogId address content)
    (mayStore : routed → notes.MayStore contacts handler) :
    Traces routed contacts turns notes (sendRequest p env dialogId action handler content) := by
  apply traceWrapper
  intro dialog notes' sameId later seen
  refine traceStep trivial ?_
  intro contact stored
  apply traces_makeMessage
  intro other
  have reaches := Findings.reaches_of_seen seen stored
  rw [← sameId] at seen
  apply Traces.andThen
  · apply Steps.traces_sendMessage (signField_of_ne other).symm
    · show notes'.Seals action dialog.mDialogId contact.adress content
      rw [sameId]
      exact (seals contact.adress).mono later
    · intro _
      show notes'.Reaches contacts dialog.mDialogId contact.adress contact.channelMoniker
      rw [sameId]
      exact reaches
    · exact fun route => (mayStore route).mono later
  · intro _ _ later'
    apply traceAtom
    exact later'.1 _ _ seen

theorem traces_abortDialog (dialogId : Str) :
    Traces routed contacts turns notes (abortDialog p env dialogId) := by
  apply traceWrapper
  intro dialog notes' sameId _ seen
  refine traceStep trivial ?_
  intro contact stored
  rw [← sameId] at seen
  dsimp only
  split
  · apply Traces.andThen
    · exact traces_sendAbort fun _ => Findings.reaches_of_seen seen stored
    · intro _ _ later
      apply traces_setStatus
      apply traceAtom
      exact later.1 _ _ seen
  · trivial

theorem traces_closeDialog (dialogId : Str) :
    Traces routed contacts turns notes (closeDialog p env dialogId) := by
  apply traceWrapper
  intro dialog notes' sameId _ seen
  split
  · refine traceStep trivial ?_
    intro contact stored
    apply traces_sendRequest
    · intro _
      rfl
    · exact fun _ => Findings.reaches_of_seen seen stored
  · exact traces_abortDialog p env dialogId

/-- The user picks a contact that is stored. -/
theorem traces_createDialog {contact : Contact}
    (stored : routed → contacts[contact.id]? = some contact) :
    Traces routed contacts turns notes (createDialog p env contact) := by
  refine traceStep trivial ?_
  intro _ _
  have bound : (notes.bind env.makeUiid contact.id).bound env.makeUiid = some contact.id :=
    Findings.bound_bind_self _ _
  apply traceWrapper
  intro dialog notes' sameId later seen
  apply traces_sendRequest
  · intro _
    rfl
  · intro route
    show notes'.Reaches contacts dialog.mDialogId contact.adress contact.channelMoniker
    rw [sameId]
    exact Findings.reaches_of_seen (later.1 _ _ bound) (stored route)

theorem traces_answerCreateDialog (message : DialogMessage w) {contact : Contact}
    (stored : routed → contacts[contact.id]? = some contact) :
    Traces routed contacts turns notes (answerCreateDialog p env message contact) := by
  refine traceStep trivial ?_
  intro _ _
  have bound : (notes.bind message.mDialogId contact.id).bound message.mDialogId = some contact.id :=
    Findings.bound_bind_self _ _
  apply traceWrapper
  intro dialog notes' sameId later seen
  have reaches : routed →
      notes'.Reaches contacts dialog.mDialogId contact.adress contact.channelMoniker := by
    intro route
    rw [sameId]
    exact Findings.reaches_of_seen (later.1 _ _ bound) (stored route)
  refine traceStep trivial ?_
  intro content _
  have later' : notes' ≤ notes'.add (.key contact.adress content) := Findings.le_add _
  apply traces_makeMessage
  intro _
  apply Steps.traces_sendMessage rfl
  · exact List.mem_cons_self
  · exact fun route => (reaches route).mono later'
  · exact fun route => Findings.Reaches.mono later' (reaches route)

variable (keyed : routed → ∀ key (contact : Contact), contacts[key]? = some contact → contact.id = key)

include keyed

omit keyed in
theorem stored_of_contactsAt {address channel : Str} {contact : Contact}
    (keyed : ∀ key (contact : Contact), contacts[key]? = some contact → contact.id = key)
    (found : contact ∈ DialogActionHandler.contactsAt contacts address channel) :
    contacts[contact.id]? = some contact := by
  have member := (List.mem_filter.mp found).1
  obtain ⟨⟨key, other⟩, entry, rfl⟩ := List.mem_map.mp member
  have stored := Std.ExtTreeMap.mem_toList_iff_getElem?_eq_some.mp entry
  show contacts[other.id]? = some other
  rw [keyed key other stored]
  exact stored

theorem traces_prepareNotFoundDialog {message : DialogMessage w} {channel : Str}
    (came : Came turns message channel) :
    Traces routed contacts turns notes (prepareNotFoundDialog p env message channel) := by
  unfold prepareNotFoundDialog
  split
  · trivial
  · split
    · refine traceStep trivial ?_
      rintro found rfl
      cases listed : DialogActionHandler.contactsAt contacts message.mAdress channel with
      | cons contact rest =>
        apply traces_answerCreateDialog
        intro route
        apply stored_of_contactsAt (keyed route)
        rw [listed]
        exact List.mem_cons_self
      | nil =>
        refine traceStep trivial ?_
        intro _ _
        exact traces_sendStray env came
    · exact traces_sendStray env came

omit keyed in
theorem traces_prepareVerifyKey (message : DialogMessage w) :
    Traces routed contacts turns notes (prepareVerifyKey p env message) := by
  apply traceWrapper
  intro dialog notes' sameId _ seen
  refine traceStep trivial ?_
  intro contact stored
  refine traceStep trivial ?_
  intro res _
  rw [← sameId] at seen
  apply traces_sendRequest
  · intro _
    exact List.mem_cons_self
  · exact fun _ => Findings.reaches_of_seen seen stored

omit keyed in
theorem traces_prepareKeyVerification (message : DialogMessage w) :
    Traces routed contacts turns notes (prepareKeyVerification p env message) := by
  refine traceStep trivial ?_
  intro verified _
  split
  · apply traceWrapper
    intro dialog notes' sameId _ seen
    refine traceStep trivial ?_
    intro contact stored
    rw [← sameId] at seen
    apply traces_sendRequest
    · intro _
      rfl
    · exact fun _ => Findings.reaches_of_seen seen stored
  · apply Traces.andThen (traces_abortDialog p env _)
    intro _ _ _
    exact traceAtom trivial

omit keyed in
theorem traces_prepareStatusChange (message : DialogMessage w) :
    Traces routed contacts turns notes (prepareStatusChange p message) := by
  apply traceWrapper
  intro dialog notes' sameId _ seen
  refine traceStep trivial ?_
  intro contact _
  cases SecureDialogues.DialogActionHandler.map p message.mAction with
  | none => trivial
  | some status =>
    apply traces_setStatus
    rw [← sameId] at seen
    refine traceStep seen ?_
    intro _ _
    exact traceAtom trivial

omit keyed in
theorem traces_prepareForFoundDialog (message : DialogMessage w) :
    Traces routed contacts turns notes (prepareForFoundDialog p env message) := by
  unfold prepareForFoundDialog
  split
  · exact traces_prepareVerifyKey p env message
  · split
    · exact traces_prepareKeyVerification p env message
    · exact traces_prepareStatusChange p message

omit keyed in
theorem traces_prepareHandleException {message : DialogMessage w} {channel : Str}
    (came : Came turns message channel) :
    Traces routed contacts turns notes (prepareHandleException p env message channel) := by
  apply Prog.Obeys.attempt
  · refine traceStep trivial ?_
    intro stored _
    split
    · exact traces_abortDialog p env _
    · exact traces_sendStray env came
  · intro e notes'
    trivial

theorem traces_handle {message : DialogMessage w} {channel : Str}
    (came : Came turns message channel) :
    Traces routed contacts turns notes (handle p env message channel) := by
  apply Prog.Obeys.attempt
  · refine traceStep trivial ?_
    intro stored _
    split
    · apply traceWrapper
      intro dialog notes' sameId _ seen
      cases accepted : dialog.isSequentalOk message.mSequentialNumber with
      | none => trivial
      | some next =>
        obtain ⟨_, rfl⟩ := Dialog.isSequentalOk_eq_some.mp accepted
        rw [← sameId] at seen
        refine traceStep seen ?_
        intro _ _
        refine traceStep trivial ?_
        intro _ _
        exact traces_prepareForFoundDialog p env message
    · exact traces_prepareNotFoundDialog p env keyed came
  · intro e notes'
    exact traces_prepareHandleException p env came

end DialogActionHandler

/-! ## Receiving -/

theorem traces_despatchError (error : DespatchError) (message : DialogMessage w)
    (channelMoniker : Str) :
    Traces routed contacts turns notes (despatchError p env error message channelMoniker) := by
  cases error with
  | contactNotFound =>
    unfold despatchError
    dsimp only
    split
    · apply Traces.andThen
      · exact Prog.Obeys.lift (fun _ _ => trivial) fun _ _ => trivial
      · intro _ _ _
        exact traceAtom trivial
    · trivial
  | exceptionThrown => trivial
  | signatureBroken => trivial
  | messageExpired => trivial

theorem traces_isSignatureValid (message : DialogMessage w) (channelName : Str) :
    Traces routed contacts turns notes (isSignatureValid p env message channelName) := by
  apply Prog.Obeys.noexcept
  refine traceStep trivial ?_
  intro valid _
  cases valid with
  | ok valid => trivial
  | error e =>
    dsimp only
    split
    · apply Traces.andThen (traces_despatchError p env _ message channelName)
      intro _ _ _
      trivial
    · trivial

variable (keyed : routed → ∀ key (contact : Contact), contacts[key]? = some contact → contact.id = key)

include keyed

theorem traces_runHandlers {message : DialogMessage w} {channelName : Str}
    (came : Came turns message channelName) :
    Traces routed contacts turns notes (runHandlers p env message channelName) := by
  unfold runHandlers
  split
  · dsimp only
    split
    · apply Traces.andThen (MessageActionHandler.traces_handle p env came)
      intro _ _ _
      exact DialogActionHandler.traces_handle p env keyed came
    · exact DialogActionHandler.traces_handle p env keyed came
  · dsimp only
    split
    · apply Traces.andThen (MessageActionHandler.traces_handle p env came)
      intro _ _ _
      trivial
    · trivial

theorem traces_dispatch {message : DialogMessage w} {channelName : Str}
    (came : Came turns message channelName) :
    Traces routed contacts turns notes (dispatch p env message channelName) := by
  apply Prog.Obeys.noexcept
  split
  · apply Traces.andThen (traces_removeEntry p _)
    intro _ _ _
    trivial
  · apply Traces.andThen (traces_sendAck env came)
    intro _ _ _
    apply Traces.andThen (traces_isSignatureValid p env message channelName)
    intro valid _ _
    split
    · exact traces_despatchError p env _ message channelName
    · split
      · exact traces_despatchError p env _ message channelName
      · exact traces_runHandlers p env keyed came

end Steps

end

end SecureDialogues
