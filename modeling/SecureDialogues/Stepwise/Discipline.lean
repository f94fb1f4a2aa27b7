import SecureDialogues.Stepwise.Operations

/-!
# What the operations do with a dialog's status

The discipline that the operations keep, each judged by its own reads and writes: the status that
is saved is the one last read or written, or one that the state machine allows after it; a message
is sent only if the state machine allows its action in the status last seen.
-/

namespace SecureDialogues

open Text Effect

/-- What is asked of an operation. -/
structure Rules where
  /-- Its messages respect the table of actions. -/
  checked : Prop
  /-- It adds no text of the user, makes none pending, takes no pending delivery out and changes no
  message. -/
  quiet : Prop
  /-- It removes no dialog. -/
  lasting : Prop
  /-- It may acknowledge. -/
  acknowledges : Prop

/-- What an operation knows of the stored status of a dialog. -/
inductive Sight where
  | unseen
  | absent
  | seen (status : Status)
  deriving DecidableEq, Repr

/-- What an operation has seen of the dialogs. -/
abbrev Notes := Str → Sight

/-- A dialog is seen. -/
def Notes.set (notes : Notes) (dialogId : Str) (sight : Sight) : Notes :=
  Function.update notes dialogId sight

@[simp] theorem Notes.set_self (notes : Notes) (dialogId : Str) (sight : Sight) :
    notes.set dialogId sight dialogId = sight :=
  Function.update_self _ _ _

/-- The callbacks of control messages. -/
def DeliveryHandler.IsControl : DeliveryHandler → Prop
  | .dialogAction _ _ _ _ _ => True
  | .messageNotDeliveried _ _ => False

section

variable {w : Nat}

/-- The status to be saved follows from the one that was seen. -/
def Notes.MaySave (notes : Notes) (dialog : Dialog w) : Prop :=
  ∃ old, notes dialog.mDialogId = .seen old ∧
    (dialog.mStatus = old ∨ isStateTransitionAllowed old dialog.mStatus = true)

/-- The message may be sent in the status that was seen. -/
def Notes.MaySend (notes : Notes) (message : DialogMessage w) : Prop :=
  message.mAction = .ack ∨ notes message.mDialogId = .absent ∨
    ∃ status, notes message.mDialogId = .seen status ∧
      isMessageActionAllowed status message.mAction = true

/-- The discipline. -/
def discipline (rules : Rules) : Prog.Discipline (Atom w) Atom.Result Exn Notes where
  guard notes
    | .saveDialog dialog => notes.MaySave dialog
    | .transmit _ message =>
      (rules.checked → notes.MaySend message) ∧ (message.mAction = .ack → rules.acknowledges)
    | .addMessage _ message => rules.quiet → message.mType ≠ .outgoing
    | .storeDelivery handler _ _ => rules.quiet → handler.IsControl
    | .record event => ∀ channel message sent, event ≠ .handed channel message sent
    | .addToActiveDialog _ | .updateMessage _ _ _ | .eraseDelivery _ => ¬ rules.quiet
    | .removeDialog _ => ¬ rules.lasting
    | _ => True
  possible _
    | .wrapper dialogId, .ok dialog => Dialog.mDialogId dialog = dialogId
    | _, _ => True
  note notes
    | .wrapper dialogId, .ok dialog => notes.set dialogId (.seen dialog.mStatus)
    | .hasDialog dialogId, .ok false => notes.set dialogId .absent
    | .addDialog dialog, .ok () => notes.set dialog.mDialogId (.seen dialog.mStatus)
    | .saveDialog dialog, _ => notes.set dialog.mDialogId (.seen dialog.mStatus)
    | .removeDialog dialogId, _ => notes.set dialogId .absent
    | _, _ => notes

/-- The operation keeps the discipline, whatever it has seen. -/
abbrev Keeps (rules : Rules) {α : Type} (notes : Notes) (m : Steps w α) : Prop :=
  Prog.Obeys (discipline rules) notes m fun _ _ => True

/-- The operation keeps the discipline and learns nothing new. -/
abbrev KeepsNotes (rules : Rules) {α : Type} (notes : Notes) (m : Steps w α) : Prop :=
  Prog.Obeys (discipline rules) notes m fun _ notes' => notes' = notes

variable (p : Platform w) (env : Env w) {rules : Rules} {notes : Notes}

/-- A step that tells nothing about the dialogs. -/
theorem silentStep {a : Atom w} {α : Type} {f : a.Result → Steps w α}
    {Q : Except (Fault Exn) α → Notes → Prop} (allowed : (discipline rules).guard notes a)
    (silent : ∀ r, (discipline rules).note notes a r = notes)
    (rest : ∀ x, Prog.Obeys (discipline rules) notes (f x) Q)
    (fault : ∀ e, Q (.error e) notes) :
    Prog.Obeys (discipline rules) notes (Prog.atom a >>= f) Q := by
  apply Prog.Obeys.silentStep allowed silent
  · intro x _
    exact rest x
  · exact fault

/-- A last step that tells nothing about the dialogs. -/
theorem silentAtom {a : Atom w} (allowed : (discipline rules).guard notes a)
    (silent : ∀ r, (discipline rules).note notes a r = notes) :
    KeepsNotes rules notes (Prog.atom a : Steps w a.Result) :=
  Prog.Obeys.silentAtom allowed silent

/-- A part that learns nothing new. -/
theorem KeepsNotes.bind {α β : Type} {m : Steps w α} {f : α → Steps w β}
    {Q : Except (Fault Exn) β → Notes → Prop} (first : KeepsNotes rules notes m)
    (rest : ∀ x, Prog.Obeys (discipline rules) notes (f x) Q)
    (fault : ∀ e, Q (.error e) notes) :
    Prog.Obeys (discipline rules) notes (m >>= f) Q :=
  Prog.Obeys.silentBind first rest fault

/-- What happens after an operation that keeps the discipline has to keep it too. -/
theorem Keeps.bind {α β : Type} {m : Steps w α} {f : α → Steps w β}
    (first : Keeps rules notes m) (rest : ∀ x notes', Keeps rules notes' (f x)) :
    Keeps rules notes (m >>= f) :=
  Prog.Obeys.andThen first rest

/-- The exceptions of the body are caught by an operation that starts with new reads. -/
theorem Keeps.catching {α : Type} {m : Steps w α} {handler : Exn → Steps w α}
    (body : Keeps rules notes m)
    (recover : ∀ e notes', Keeps rules notes' (handler e)) :
    Keeps rules notes (m.catching handler) :=
  Prog.Obeys.attempt body recover

theorem KeepsNotes.keeps {α : Type} {m : Steps w α} (keeps : KeepsNotes rules notes m) :
    Keeps rules notes m :=
  keeps.mono fun _ _ _ => trivial

theorem silentAtom.keeps {a : Atom w} (allowed : (discipline rules).guard notes a)
    (silent : ∀ r, (discipline rules).note notes a r = notes) :
    Keeps rules notes (Prog.atom a : Steps w a.Result) :=
  (silentAtom allowed silent).keeps

/-- The read of a dialog's record. -/
theorem wrapperStep {dialogId : Str} {α : Type} {f : Dialog w → Steps w α}
    {Q : Except (Fault Exn) α → Notes → Prop}
    (rest : ∀ dialog : Dialog w, dialog.mDialogId = dialogId →
      Prog.Obeys (discipline rules)
        (notes.set dialogId (.seen dialog.mStatus)) (f dialog) Q)
    (fault : ∀ e, Q (.error e) notes) :
    Prog.Obeys (discipline rules) notes (Prog.atom (.wrapper dialogId) >>= f) Q := by
  apply Prog.Obeys.step trivial
  · intro dialog sameId
    exact rest dialog sameId
  · intro e _
    exact fault e

/-- The question whether a dialog is stored. -/
theorem hasDialogStep {dialogId : Str} {α : Type} {f : Bool → Steps w α}
    (stored : Keeps rules notes (f true))
    (absent : Keeps rules (notes.set dialogId .absent) (f false)) :
    Keeps rules notes (Prog.atom (.hasDialog dialogId) >>= f) := by
  apply Prog.Obeys.step trivial
  · intro found _
    cases found with
    | false => exact absent
    | true => exact stored
  · intro e _
    trivial

/-- The write of a record. -/
theorem saveAtom {dialog : Dialog w} (allowed : notes.MaySave dialog) :
    Keeps rules notes (Prog.atom (.saveDialog dialog)) := by
  apply Prog.Obeys.atom allowed
  intro r _
  trivial

section Sights

variable {dialog : Dialog w}

theorem maySave_of_seen {dialogId : Str} {status : Status} {changed : Dialog w}
    (sameId : changed.mDialogId = dialogId)
    (follows : changed.mStatus = status ∨
      isStateTransitionAllowed status changed.mStatus = true) :
    (notes.set dialogId (.seen status)).MaySave changed :=
  ⟨status, by rw [sameId, Notes.set_self], follows⟩

theorem maySend_of_seen {dialogId : Str} {status : Status} {message : DialogMessage w}
    (sameId : message.mDialogId = dialogId)
    (allowed : isMessageActionAllowed status message.mAction = true) :
    (notes.set dialogId (.seen status)).MaySend message :=
  .inr (.inr ⟨status, by rw [sameId, Notes.set_self], allowed⟩)

theorem maySend_of_absent {message : DialogMessage w} (absent : notes message.mDialogId = .absent) :
    notes.MaySend message :=
  .inr (.inl absent)

/-- No status allows an ACK as a message of its dialog. -/
theorem ne_ack_of_allowed {status : Status} {action : Action}
    (allowed : isMessageActionAllowed status action = true) : action ≠ .ack := by
  rintro rfl
  cases status <;> cases allowed

end Sights

namespace Steps

/-! ## Sending -/

theorem keepsNotes_sendMessage {message : DialogMessage w} (channelName : Str)
    {deliveryHandler : DeliveryHandler} (control : rules.quiet → deliveryHandler.IsControl)
    (other : message.mAction ≠ .ack) (allowed : rules.checked → notes.MaySend message) :
    KeepsNotes rules notes (sendMessage message channelName deliveryHandler) := by
  unfold sendMessage
  refine silentStep trivial (fun _ => rfl) ?_ (fun _ => rfl)
  intro found
  cases found with
  | none => rfl
  | some waitAckInterval =>
    refine silentStep trivial (fun _ => rfl) ?_ (fun _ => rfl)
    intro sign
    refine silentStep control (fun _ => rfl) ?_ (fun _ => rfl)
    intro _
    exact silentAtom ⟨allowed, fun ack => absurd ack other⟩ (fun _ => rfl)

theorem keepsNotes_sendAndForget {message : DialogMessage w} (channelName : Str)
    (mayAck : message.mAction = .ack → rules.acknowledges)
    (allowed : rules.checked → notes.MaySend message) :
    KeepsNotes rules notes (sendAndForget message channelName) := by
  unfold sendAndForget
  refine silentStep trivial (fun _ => rfl) ?_ (fun _ => rfl)
  intro sign
  refine silentStep trivial (fun _ => rfl) ?_ (fun _ => rfl)
  intro found
  cases found with
  | none => rfl
  | some waitAckInterval => exact silentAtom ⟨allowed, mayAck⟩ (fun _ => rfl)

theorem keepsNotes_sendAbort {timestamp number : BitVec w} {dialogId contact : Str}
    (channelName : Str)
    (allowed : rules.checked → notes.MaySend (makeAbort timestamp dialogId contact number)) :
    KeepsNotes rules notes
      (sendAndForget (makeAbort timestamp dialogId contact number) channelName) := by
  apply keepsNotes_sendAndForget
  · intro ack
    cases ack
  · exact allowed

/-- An ABORT may be sent for a dialog that was not found. -/
theorem keeps_abortOfAbsent {timestamp number : BitVec w} {dialogId contact : Str}
    (channelName : Str) (absent : notes dialogId = .absent) :
    Keeps rules notes
      (sendAndForget (makeAbort timestamp dialogId contact number) channelName) := by
  apply KeepsNotes.keeps
  apply keepsNotes_sendAbort
  intro _
  exact maySend_of_absent absent

/-- An ACK may always be sent. -/
theorem keepsNotes_sendAck (acknowledges : rules.acknowledges) (message : DialogMessage w)
    (channel : Str) : KeepsNotes rules notes (sendAck env message channel) := by
  unfold sendAck
  refine silentStep trivial (fun _ => rfl) ?_ (fun _ => rfl)
  intro connected
  split
  · apply keepsNotes_sendAndForget
    · intro _
      exact acknowledges
    · intro _
      exact .inl rfl
  · rfl

/-- `make_message` checks the status of its copy. -/
theorem makeMessage_obeys {action : Action} {dialog : Dialog w} {contact : Contact} {content : Str}
    {α : Type} {f : DialogMessage w × Dialog w → Steps w α}
    {Q : Except (Fault Exn) α → Notes → Prop}
    (rest : isMessageActionAllowed dialog.mStatus action = true →
      Prog.Obeys (discipline rules) notes
        (f (requestMessage env action dialog contact content, dialog.makeNextSequental)) Q)
    (fault : ∀ e, Q (.error e) notes) :
    Prog.Obeys (discipline rules) notes
      (makeMessage p env action dialog contact content >>= f) Q := by
  unfold makeMessage
  split
  · rename_i allowed
    exact rest allowed
  · exact fault _

/-- `Dialog::setStatus` checks the transition from the status of its copy. -/
theorem setStatus_obeys {dialog : Dialog w} {status : Status} {α : Type}
    {f : Dialog w → Steps w α} {Q : Except (Fault Exn) α → Notes → Prop}
    (rest : isStateTransitionAllowed dialog.mStatus status = true →
      Prog.Obeys (discipline rules) notes (f (dialog.withStatus status)) Q)
    (fault : ∀ e, Q (.error e) notes) :
    Prog.Obeys (discipline rules) notes (setStatus p dialog status >>= f) Q := by
  unfold setStatus
  split
  · rename_i allowed
    exact rest allowed
  · exact fault _

/-! ## Delivery callbacks -/

/-- A copy whose status `setStatus` has changed may be written back. -/
theorem keeps_setStatus_save {dialog : Dialog w} {next : Status}
    (seen : notes dialog.mDialogId = .seen dialog.mStatus) :
    Keeps rules notes (do
      let dialog ← setStatus p dialog next
      step (.saveDialog dialog)) := by
  apply setStatus_obeys
  · intro allowed
    apply saveAtom
    exact ⟨dialog.mStatus, seen, .inr allowed⟩
  · intro e
    trivial

theorem keeps_removed {handler : DeliveryHandler}
    (loud : ∀ dialogId number, handler = .messageNotDeliveried dialogId number → ¬ rules.quiet) :
    Keeps rules notes (removed p handler) := by
  cases handler with
  | dialogAction dialogId mNext mAbortNeed mAddress mChannel =>
    apply wrapperStep
    · intro dialog sameId
      apply keeps_setStatus_save
      rw [sameId, Notes.set_self]
    · intro e
      trivial
  | messageNotDeliveried dialogId number =>
    apply Prog.Obeys.atom (loud dialogId number rfl)
    intro r _
    trivial

/-- The ABORT of an expired request is sent without a look at the status. -/
theorem keeps_timeouted {handler : DeliveryHandler}
    (loud : ∀ dialogId number, handler = .messageNotDeliveried dialogId number → ¬ rules.quiet)
    (unchecked : ∀ dialogId mNext mAddress mChannel,
      handler = .dialogAction dialogId mNext true mAddress mChannel → ¬ rules.checked) :
    Keeps rules notes (timeouted p env handler) := by
  cases handler with
  | dialogAction dialogId mNext mAbortNeed mAddress mChannel =>
    apply wrapperStep
    · intro dialog sameId
      cases mAbortNeed with
      | true =>
        apply KeepsNotes.bind
        · apply keepsNotes_sendAbort
          intro check
          exact absurd check (unchecked _ _ _ _ rfl)
        · intro _
          refine silentStep trivial (fun _ => rfl) ?_ (fun _ => trivial)
          intro _
          apply keeps_setStatus_save
          rw [Dialog.makeNextSequental_mDialogId, sameId, Notes.set_self]
          rfl
        · intro e
          trivial
      | false =>
        refine silentStep trivial (fun _ => rfl) ?_ (fun _ => trivial)
        intro _
        apply keeps_setStatus_save
        rw [sameId, Notes.set_self]
    · intro e
      trivial
  | messageNotDeliveried dialogId number =>
    apply Prog.Obeys.atom (loud dialogId number rfl)
    intro r _
    trivial

theorem keeps_removeEntry (loud : ¬ rules.quiet) (k : NumberedKey w) :
    Keeps rules notes (removeEntry p k) := by
  refine silentStep trivial (fun _ => rfl) ?_ (fun _ => trivial)
  intro found
  cases found with
  | none => trivial
  | some stored =>
    apply Keeps.bind
    · apply keeps_removed
      intro _ _ _
      exact loud
    · intro _ notes'
      apply Keeps.bind
      · exact silentAtom.keeps loud fun _ => rfl
      · intro _ _
        trivial

theorem keeps_expireEntry (loud : ¬ rules.quiet) (unchecked : ¬ rules.checked) (k : NumberedKey w) :
    Keeps rules notes (expireEntry p env k) := by
  apply Prog.Obeys.noexcept
  refine silentStep trivial (fun _ => rfl) ?_ (fun _ => trivial)
  intro found
  cases found with
  | none => trivial
  | some element =>
    apply Keeps.bind
    · apply keeps_timeouted
      · intro _ _ _
        exact loud
      · intro _ _ _ _ _
        exact unchecked
    · intro _ notes'
      exact silentAtom.keeps loud fun _ => rfl

/-! ## Texts -/

namespace MessageActionHandler

theorem keeps_abortStored (message : DialogMessage w) (channel : Str) :
    Keeps rules notes (abortStored p env message channel) := by
  apply wrapperStep
  · intro dialog sameId
    refine silentStep trivial (fun _ => rfl) ?_ (fun _ => trivial)
    intro contact
    apply setStatus_obeys
    · intro allowed
      apply KeepsNotes.bind
      · apply keepsNotes_sendAbort
        intro _
        apply maySend_of_seen
        · exact sameId
        · show isMessageActionAllowed dialog.mStatus .abort = true
          rw [isMessageActionAllowed_abort, ← isStateTransitionAllowed_aborted]
          exact allowed
      · intro _
        apply saveAtom
        exact maySave_of_seen sameId (.inr allowed)
      · intro e
        trivial
    · intro e
      trivial
  · intro e
    trivial

theorem keeps_abortOnException (message : DialogMessage w) (channel : Str) :
    Keeps rules notes (abortOnException p env message channel) := by
  apply Keeps.catching
  · refine silentStep ?_ (fun _ => rfl) ?_ (fun _ => trivial)
    · intro _ outgoing
      cases outgoing
    · intro _
      apply hasDialogStep
      · rw [if_pos rfl]
        exact keeps_abortStored p env message channel
      · rw [if_neg Bool.false_ne_true]
        exact keeps_abortOfAbsent channel (Notes.set_self _ _ _)
  · intro e notes'
    trivial

theorem keeps_acceptText (message : DialogMessage w) :
    Keeps rules notes (acceptText message) := by
  refine silentStep trivial (fun _ => rfl) ?_ (fun _ => trivial)
  intro content
  refine silentStep ?_ (fun _ => rfl) ?_ (fun _ => trivial)
  · intro _ outgoing
    cases outgoing
  · intro _
    exact silentAtom.keeps (fun _ _ _ => by simp) fun _ => rfl

theorem keeps_handle (message : DialogMessage w) (channel : Str) :
    Keeps rules notes (handle p env message channel) := by
  apply Keeps.catching
  · apply hasDialogStep
    · rw [if_pos rfl]
      apply wrapperStep
      · intro dialog _
        cases dialog.isSequentalOk message.mSequentialNumber with
        | none => trivial
        | some next => exact keeps_acceptText message
      · intro e
        trivial
    · rw [if_neg Bool.false_ne_true]
      refine silentStep trivial (fun _ => rfl) ?_ (fun _ => trivial)
      intro _
      exact keeps_abortOfAbsent channel (Notes.set_self _ _ _)
  · intro e notes'
    exact keeps_abortOnException p env message channel

theorem keeps_sendText (loud : ¬ rules.quiet) (dialogId message : Str) :
    Keeps rules notes (sendText p env dialogId message) := by
  apply wrapperStep
  · intro dialog sameId
    refine silentStep trivial (fun _ => rfl) ?_ (fun _ => trivial)
    intro contact
    apply makeMessage_obeys
    · intro allowed
      apply Prog.Obeys.step
      · exact maySave_of_seen sameId (.inl rfl)
      · intro _ _
        refine silentStep trivial (fun _ => rfl) ?_ (fun _ => trivial)
        intro content
        refine silentStep loud (fun _ => rfl) ?_ (fun _ => trivial)
        intro handler
        apply KeepsNotes.keeps
        apply keepsNotes_sendMessage
        · intro quiet
          exact absurd quiet loud
        · intro ack
          cases ack
        · intro _
          exact maySend_of_seen rfl allowed
      · intro e _
        trivial
    · intro e
      trivial
  · intro e
    trivial

theorem keeps_sendMessage (loud : ¬ rules.quiet) (message : Str) :
    Keeps rules notes (sendMessage p env message) := by
  have sends : ∀ (notes : Notes) (dialogId : Str), Keeps rules notes
      ((sendText p env dialogId message).catching fun ex =>
        step (.addMessage dialogId {
          mStatus := .error
          mType := .system
          mContent := p.text "Failed to send messsage, reason: {}" [ex.what] })) := by
    intro notes dialogId
    apply Keeps.catching
    · exact keeps_sendText p env loud dialogId message
    · intro e notes'
      refine silentAtom.keeps ?_ (fun _ => rfl)
      intro isQuiet
      exact absurd isQuiet loud
  refine silentStep trivial (fun _ => rfl) ?_ (fun _ => trivial)
  intro dialogId
  dsimp only
  split
  · refine silentStep trivial (fun _ => rfl) ?_ (fun _ => trivial)
    intro _
    exact sends notes dialogId
  · exact sends notes dialogId

end MessageActionHandler

/-! ## Control messages and the user's dialog operations -/

namespace DialogActionHandler

theorem keeps_sendRequest (dialogId : Str) (action : Action) {handler : DeliveryHandler}
    (control : handler.IsControl) (content : Str) :
    Keeps rules notes (sendRequest p env dialogId action handler content) := by
  apply wrapperStep
  · intro dialog sameId
    refine silentStep trivial (fun _ => rfl) ?_ (fun _ => trivial)
    intro contact
    apply makeMessage_obeys
    · intro allowed
      apply KeepsNotes.bind
      · apply keepsNotes_sendMessage
        · intro _
          exact control
        · exact ne_ack_of_allowed allowed
        · intro _
          exact maySend_of_seen sameId allowed
      · intro _
        apply saveAtom
        exact maySave_of_seen sameId (.inl rfl)
      · intro e
        trivial
    · intro e
      trivial
  · intro e
    trivial

theorem keeps_abortDialog (dialogId : Str) :
    Keeps rules notes (abortDialog p env dialogId) := by
  apply wrapperStep
  · intro dialog sameId
    refine silentStep trivial (fun _ => rfl) ?_ (fun _ => trivial)
    intro contact
    dsimp only
    split
    · rename_i allowed
      apply KeepsNotes.bind
      · apply keepsNotes_sendAbort
        intro _
        exact maySend_of_seen sameId allowed
      · intro _
        apply keeps_setStatus_save
        rw [Dialog.makeNextSequental_mDialogId, sameId, Notes.set_self]
        rfl
      · intro e
        trivial
    · trivial
  · intro e
    trivial

theorem keeps_closeDialog (dialogId : Str) :
    Keeps rules notes (closeDialog p env dialogId) := by
  apply wrapperStep
  · intro dialog _
    split
    · refine silentStep trivial (fun _ => rfl) ?_ (fun _ => trivial)
      intro contact
      exact keeps_sendRequest p env _ _ (by trivial) _
    · exact keeps_abortDialog p env dialogId
  · intro e
    trivial

theorem keeps_removeDialog (mayRemove : ¬ rules.lasting) (dialogId : Str) :
    Keeps rules notes (removeDialog p env dialogId) := by
  apply Keeps.bind
  · exact keeps_closeDialog p env dialogId
  · intro _ notes'
    apply wrapperStep
    · intro dialog _
      apply Prog.Obeys.atom mayRemove
      intro r _
      trivial
    · intro e
      trivial

/-- The `add` of a dialog to the storage. -/
theorem addDialogStep {dialog : Dialog w} {f : Unit → Steps w Unit}
    (rest : Keeps rules (notes.set dialog.mDialogId (.seen dialog.mStatus)) (f ())) :
    Keeps rules notes (step (.addDialog dialog) >>= f) := by
  apply Prog.Obeys.step trivial
  · intro _ _
    exact rest
  · intro e _
    trivial

theorem keeps_createDialog (contact : Contact) :
    Keeps rules notes (createDialog p env contact) := by
  apply addDialogStep
  apply wrapperStep
  · intro dialog _
    exact keeps_sendRequest p env _ _ (by trivial) _
  · intro e
    trivial

theorem keeps_answerCreateDialog (message : DialogMessage w) (contact : Contact) :
    Keeps rules notes (answerCreateDialog p env message contact) := by
  apply addDialogStep
  apply wrapperStep
  · intro dialog sameId
    refine silentStep trivial (fun _ => rfl) ?_ (fun _ => trivial)
    intro content
    apply makeMessage_obeys
    · intro allowed
      apply KeepsNotes.keeps
      apply keepsNotes_sendMessage
      · intro _
        exact trivial
      · intro ack
        cases ack
      · intro _
        exact maySend_of_seen sameId allowed
    · intro e
      trivial
  · intro e
    trivial

/-- The answer to a message of a dialog that is not stored is an ABORT, or the dialog is created. -/
theorem keeps_prepareNotFoundDialog {message : DialogMessage w} (channel : Str)
    (absent : notes message.mDialogId = .absent) :
    Keeps rules notes (prepareNotFoundDialog p env message channel) := by
  have stray : Keeps rules notes (sendAndForget (strayAbort env message) channel) :=
    keeps_abortOfAbsent channel absent
  unfold prepareNotFoundDialog
  split
  · trivial
  · split
    · refine silentStep trivial (fun _ => rfl) ?_ (fun _ => trivial)
      intro contacts
      cases contacts with
      | cons contact rest => exact keeps_answerCreateDialog p env message contact
      | nil =>
        refine silentStep trivial (fun _ => rfl) ?_ (fun _ => trivial)
        intro _
        exact stray
    · exact stray

theorem keeps_prepareVerifyKey (message : DialogMessage w) :
    Keeps rules notes (prepareVerifyKey p env message) := by
  apply wrapperStep
  · intro dialog _
    refine silentStep trivial (fun _ => rfl) ?_ (fun _ => trivial)
    intro contact
    refine silentStep trivial (fun _ => rfl) ?_ (fun _ => trivial)
    intro res
    exact keeps_sendRequest p env _ _ (by trivial) _
  · intro e
    trivial

theorem keeps_prepareKeyVerification (message : DialogMessage w) :
    Keeps rules notes (prepareKeyVerification p env message) := by
  refine silentStep trivial (fun _ => rfl) ?_ (fun _ => trivial)
  intro verified
  split
  · apply wrapperStep
    · intro dialog _
      refine silentStep trivial (fun _ => rfl) ?_ (fun _ => trivial)
      intro contact
      exact keeps_sendRequest p env _ _ (by trivial) _
    · intro e
      trivial
  · apply Keeps.bind
    · exact keeps_abortDialog p env message.mDialogId
    · intro _ notes'
      exact silentAtom.keeps trivial fun _ => rfl

theorem keeps_prepareStatusChange (message : DialogMessage w) :
    Keeps rules notes (prepareStatusChange p message) := by
  apply wrapperStep
  · intro dialog sameId
    refine silentStep trivial (fun _ => rfl) ?_ (fun _ => trivial)
    intro contact
    cases SecureDialogues.DialogActionHandler.map p message.mAction with
    | none => trivial
    | some status =>
      apply setStatus_obeys
      · intro allowed
        apply Keeps.bind
        · apply saveAtom
          exact maySave_of_seen sameId (.inr allowed)
        · intro _ notes'
          exact silentAtom.keeps trivial fun _ => rfl
      · intro e
        trivial
  · intro e
    trivial

theorem keeps_prepareForFoundDialog (message : DialogMessage w) :
    Keeps rules notes (prepareForFoundDialog p env message) := by
  unfold prepareForFoundDialog
  split
  · exact keeps_prepareVerifyKey p env message
  · split
    · exact keeps_prepareKeyVerification p env message
    · exact keeps_prepareStatusChange p message

theorem keeps_prepareHandleException (message : DialogMessage w) (channel : Str) :
    Keeps rules notes (prepareHandleException p env message channel) := by
  apply Keeps.catching
  · apply hasDialogStep
    · rw [if_pos rfl]
      exact keeps_abortDialog p env message.mDialogId
    · rw [if_neg Bool.false_ne_true]
      exact keeps_abortOfAbsent channel (Notes.set_self _ _ _)
  · intro e notes'
    trivial

theorem keeps_handle (message : DialogMessage w) (channel : Str) :
    Keeps rules notes (handle p env message channel) := by
  apply Keeps.catching
  · apply hasDialogStep
    · rw [if_pos rfl]
      apply wrapperStep
      · intro dialog sameId
        cases accepted : dialog.isSequentalOk message.mSequentialNumber with
        | none => trivial
        | some next =>
          obtain ⟨_, rfl⟩ := Dialog.isSequentalOk_eq_some.mp accepted
          apply Prog.Obeys.step
          · exact maySave_of_seen sameId (.inl rfl)
          · intro _ _
            refine silentStep (fun _ _ _ => by simp) (fun _ => rfl) ?_ (fun _ => trivial)
            intro _
            exact keeps_prepareForFoundDialog p env message
          · intro e _
            trivial
      · intro e
        trivial
    · rw [if_neg Bool.false_ne_true]
      apply keeps_prepareNotFoundDialog
      exact Notes.set_self _ _ _
  · intro e notes'
    exact keeps_prepareHandleException p env message channel

end DialogActionHandler

/-! ## Receiving -/

theorem keepsNotes_despatchError (error : DespatchError) (message : DialogMessage w)
    (channelMoniker : Str) :
    KeepsNotes rules notes (despatchError p env error message channelMoniker) := by
  cases error with
  | contactNotFound =>
    unfold despatchError
    dsimp only
    split
    · apply KeepsNotes.bind
      · apply Prog.Obeys.lift
        · intro _ _
          rfl
        · intro _ _
          rfl
      · intro _
        exact silentAtom trivial fun _ => rfl
      · intro e
        rfl
    · rfl
  | exceptionThrown => rfl
  | signatureBroken => rfl
  | messageExpired => rfl

theorem keeps_isSignatureValid (message : DialogMessage w) (channelName : Str) :
    Keeps rules notes (isSignatureValid p env message channelName) := by
  apply Prog.Obeys.noexcept
  refine silentStep trivial (fun _ => rfl) ?_ (fun _ => trivial)
  intro valid
  cases valid with
  | ok valid => trivial
  | error e =>
    dsimp only
    split
    · apply KeepsNotes.bind
      · exact keepsNotes_despatchError p env _ message channelName
      · intro _
        trivial
      · intro e
        trivial
    · trivial

theorem keeps_runHandlers (message : DialogMessage w) (channelName : Str) :
    Keeps rules notes (runHandlers p env message channelName) := by
  unfold runHandlers
  split
  · dsimp only
    split
    · apply Keeps.bind
      · exact MessageActionHandler.keeps_handle p env message channelName
      · intro _ notes'
        exact DialogActionHandler.keeps_handle p env message channelName
    · exact DialogActionHandler.keeps_handle p env message channelName
  · dsimp only
    split
    · apply Keeps.bind
      · exact MessageActionHandler.keeps_handle p env message channelName
      · intro _ _
        trivial
    · trivial

/-- What follows the ACK of a message. -/
theorem keeps_checkAndHandle (message : DialogMessage w) (channelName : Str) :
    Keeps rules notes (do
      let valid ← isSignatureValid p env message channelName
      if valid = false then despatchError p env .signatureBroken message channelName
      else if isExpired env message then despatchError p env .messageExpired message channelName
      else runHandlers p env message channelName) := by
  apply Keeps.bind
  · exact keeps_isSignatureValid p env message channelName
  · intro valid notes'
    split
    · exact (keepsNotes_despatchError p env _ message channelName).keeps
    · split
      · exact (keepsNotes_despatchError p env _ message channelName).keeps
      · exact keeps_runHandlers p env message channelName

theorem keeps_dispatchMessage (acknowledges : rules.acknowledges) (message : DialogMessage w)
    (channelName : Str) : Keeps rules notes (dispatchMessage p env message channelName) := by
  apply KeepsNotes.bind
  · exact keepsNotes_sendAck env acknowledges message channelName
  · intro _
    exact keeps_checkAndHandle p env message channelName
  · intro e
    trivial

theorem keeps_dispatch {message : DialogMessage w} (channelName : Str)
    (loud : message.mAction = .ack → ¬ rules.quiet)
    (acknowledges : message.mAction ≠ .ack → rules.acknowledges) :
    Keeps rules notes (dispatch p env message channelName) := by
  apply Prog.Obeys.noexcept
  split
  · rename_i ack
    apply Keeps.bind
    · exact keeps_removeEntry p (loud ack) _
    · intro _ _
      trivial
  · rename_i other
    exact keeps_dispatchMessage p env (acknowledges other) message channelName

end Steps

end

end SecureDialogues
