import SecureDialogues.Protocol.MessageStorm
import SecureDialogues.Stepwise.OutgoingActions

/-!
# The texts of the user

What a step does to the texts that the user has sent: to their entries in the message container and
to the pending deliveries that hold their callbacks. A step shows a new text, runs the callback of
one, empties both, or leaves them alone (`textStep_next`).
-/

namespace SecureDialogues

open Text Effect

section

variable {w : Nat}

/-! ## Texts and their pending deliveries -/

/-- The message stands under this number in the dialog. -/
def MessageContainer.Shows (container : MessageContainer) (dialogId : Str) (number : Nat)
    (message : UserMessage) : Prop :=
  (number, message) ∈ (container.mMessages[dialogId]?).getD []

instance (container : MessageContainer) (dialogId : Str) (number : Nat) (message : UserMessage) :
    Decidable (container.Shows dialogId number message) := inferInstanceAs (Decidable (_ ∈ _))

/-- The delivery that is pending under the key has the callback of this message. -/
def Core.Pends (s : Core w) (k : NumberedKey w) (dialogId : Str) (number : Nat) : Prop :=
  ∃ stored, s.mRepo[k]? = some stored ∧ stored.element = .messageNotDeliveried dialogId number

theorem MessageContainer.shows_addMessage (container : MessageContainer) (added : Str)
    (message : UserMessage) (dialogId : Str) (number : Nat) (other : UserMessage) :
    (container.addMessage added message).Shows dialogId number other ↔
      container.Shows dialogId number other ∨
        dialogId = added ∧ number = container.mNext ∧ other = message := by
  unfold Shows addMessage
  simp only [getElem?_insert]
  by_cases same : added = dialogId
  · subst same
    rw [if_pos rfl, Option.getD_some, List.mem_append, List.mem_singleton, Prod.mk.injEq]
    simp
  · rw [if_neg same]
    constructor
    · exact .inl
    · rintro (old | ⟨rfl, -⟩)
      · exact old
      · exact absurd rfl same

theorem MessageContainer.shows_setActiveDialog (container : MessageContainer)
    (active dialogId : Str) (number : Nat) (message : UserMessage) :
    (container.setActiveDialog active).Shows dialogId number message ↔
      container.Shows dialogId number message := by
  unfold setActiveDialog
  split
  · rfl
  · split
    · show (number, message) ∈ ((container.mMessages.insertIfNew active [])[dialogId]?).getD [] ↔ _
      rw [getElem?_insertIfNew]
      split
      · rename_i opened
        obtain ⟨rfl, absent⟩ := opened
        simp [Shows, absent]
      · rfl
    · rfl

theorem MessageContainer.mNext_setActiveDialog (container : MessageContainer) (active : Str) :
    (container.setActiveDialog active).mNext = container.mNext := by
  unfold setActiveDialog
  split
  · rfl
  · split <;> rfl

/-- A callback changes the status of its message. -/
theorem MessageContainer.shows_updateMessage (container : MessageContainer) (changed : Str)
    (last : Nat) (status : UserMessage.Status) (dialogId : Str) (number : Nat)
    (message : UserMessage) :
    (container.updateMessage changed last status).Shows dialogId number message ↔
      ∃ before, container.Shows dialogId number before ∧
        message = if dialogId = changed ∧ number = last then before.updateStatus status
          else before := by
  unfold Shows updateMessage
  cases found : container.mMessages[changed]? with
  | none =>
    dsimp only
    constructor
    · intro member
      refine ⟨message, member, ?_⟩
      rw [if_neg]
      rintro ⟨rfl, -⟩
      rw [found] at member
      cases member
    · rintro ⟨before, member, rfl⟩
      rw [if_neg]
      · exact member
      · rintro ⟨rfl, -⟩
        rw [found] at member
        cases member
  | some messages =>
    simp only [getElem?_insert]
    by_cases same : changed = dialogId
    · subst same
      rw [if_pos rfl, Option.getD_some, List.mem_map, found, Option.getD_some]
      constructor
      · rintro ⟨⟨previous, before⟩, member, changes⟩
        dsimp only at changes
        by_cases this : previous = last
        · rw [if_pos this] at changes
          obtain ⟨rfl, rfl⟩ := Prod.mk.inj changes
          subst this
          exact ⟨before, member, (if_pos ⟨rfl, rfl⟩).symm⟩
        · rw [if_neg this] at changes
          obtain ⟨rfl, rfl⟩ := Prod.mk.inj changes
          exact ⟨before, member, (if_neg fun both => this both.2).symm⟩
      · rintro ⟨before, member, rfl⟩
        refine ⟨(number, before), member, ?_⟩
        dsimp only
        by_cases this : number = last
        · subst this
          rw [if_pos rfl, if_pos ⟨rfl, rfl⟩]
        · rw [if_neg this, if_neg fun both => this both.2]
    · rw [if_neg same]
      constructor
      · intro member
        exact ⟨message, member, (if_neg fun both => same both.1.symm).symm⟩
      · rintro ⟨before, member, rfl⟩
        rw [if_neg fun both => same both.1.symm]
        exact member

theorem MessageContainer.mNext_updateMessage (container : MessageContainer) (changed : Str)
    (number : Nat) (status : UserMessage.Status) :
    (container.updateMessage changed number status).mNext = container.mNext := by
  unfold updateMessage
  split <;> rfl

/-! ## Changes without a text -/

/-- The texts of the user and the pending deliveries of texts are the same. -/
structure KeepsTexts (s s' : Core w) : Prop where
  shows : ∀ dialogId number message, message.mType = .outgoing →
    (s'.mMessageContainer.Shows dialogId number message ↔
      s.mMessageContainer.Shows dialogId number message)
  pends : ∀ k dialogId number, s'.Pends k dialogId number ↔ s.Pends k dialogId number
  numbers : s.mMessageContainer.mNext ≤ s'.mMessageContainer.mNext

theorem KeepsTexts.of_same {s s' : Core w} (container : s'.mMessageContainer = s.mMessageContainer)
    (mRepo : s'.mRepo = s.mRepo) : KeepsTexts s s' where
  shows dialogId number message _ := by rw [container]
  pends k dialogId number := by
    rw [Core.Pends, Core.Pends, mRepo]
  numbers := by rw [container]

theorem KeepsTexts.trans {s s' s'' : Core w} (first : KeepsTexts s s')
    (second : KeepsTexts s' s'') : KeepsTexts s s'' where
  shows dialogId number message own :=
    (second.shows dialogId number message own).trans (first.shows dialogId number message own)
  pends k dialogId number := (second.pends k dialogId number).trans (first.pends k dialogId number)
  numbers := first.numbers.trans second.numbers

/-- A message that is not the user's is added. -/
theorem keepsTexts_addMessage (s : Core w) (added : Str) {message : UserMessage}
    (foreign : message.mType ≠ .outgoing) :
    KeepsTexts s { s with
      mMessageContainer := s.mMessageContainer.addMessage added message } where
  shows dialogId number other own := by
    rw [MessageContainer.shows_addMessage]
    constructor
    · rintro (old | ⟨-, -, rfl⟩)
      · exact old
      · exact absurd own foreign
    · exact .inl
  pends _ _ _ := Iff.rfl
  numbers := Nat.le_succ _

theorem keepsTexts_setActiveDialog (s : Core w) (dialogId : Str) :
    KeepsTexts s { s with
      mMessageContainer := s.mMessageContainer.setActiveDialog dialogId } where
  shows other number message _ :=
    s.mMessageContainer.shows_setActiveDialog dialogId other number message
  pends _ _ _ := Iff.rfl
  numbers := (s.mMessageContainer.mNext_setActiveDialog dialogId).ge

/-- A control message becomes pending. -/
theorem keepsTexts_store (s : Core w) {handler : DeliveryHandler} (control : handler.IsControl)
    (now : Int) (k : NumberedKey w) (timeout : Nat) :
    KeepsTexts s { s with mRepo := s.mRepo.store now handler k timeout } where
  shows _ _ _ _ := Iff.rfl
  pends other dialogId number := by
    show (∃ stored, (s.mRepo.store now handler k timeout)[other]? = some stored ∧ _) ↔ _
    rw [TimeoutedRepository.getElem?_store]
    constructor
    · rintro ⟨stored, found, text⟩
      split at found
      · obtain rfl := Option.some.inj found
        dsimp only at text
        rw [text] at control
        exact control.elim
      · exact ⟨stored, found, text⟩
    · rintro ⟨stored, found, text⟩
      refine ⟨stored, ?_, text⟩
      rw [if_neg]
      · exact found
      · rintro ⟨rfl, free⟩
        rw [free] at found
        cases found
  numbers := le_rfl

/-- A pending control message is taken out. -/
theorem keepsTexts_erase {s : Core w} {k : NumberedKey w} {stored : StoredElement DeliveryHandler}
    (found : s.mRepo[k]? = some stored) (control : stored.element.IsControl) :
    KeepsTexts s { s with mRepo := s.mRepo.erase k } where
  shows _ _ _ _ := Iff.rfl
  pends other dialogId number := by
    show (∃ entry, (s.mRepo.erase k)[other]? = some entry ∧ _) ↔ _
    rw [getElem?_erase]
    constructor
    · rintro ⟨entry, left, text⟩
      split at left
      · cases left
      · exact ⟨entry, left, text⟩
    · rintro ⟨entry, lookup, text⟩
      refine ⟨entry, ?_, text⟩
      rw [if_neg]
      · exact lookup
      · rintro rfl
        obtain rfl := Option.some.inj (found.symm.trans lookup)
        rw [text] at control
        exact control
  numbers := le_rfl

variable (p : Platform w) (env : Env w)

/-- The note about an ended dialog is not the user's. -/
theorem keepsTexts_saveDialog (s : Core w) (dialog : Dialog w) :
    KeepsTexts s (s.saveDialog p dialog) := by
  unfold Core.saveDialog MessageContainer.dialogChanged
  split
  · apply (keepsTexts_addMessage s dialog.mDialogId _).trans
    · exact .of_same rfl rfl
    · intro outgoing
      cases outgoing
  · exact .of_same rfl rfl

/-! ## Operations that send and confirm no text -/

theorem KeepsTexts.of_leaves {α : Type} {m : M w α}
    (leaves : Eff.Leaves (fun s => (s.mMessageContainer, s.mRepo)) m) (s : Core w) :
    KeepsTexts s (m s).2 := by
  obtain ⟨container, mRepo⟩ := Prod.mk.inj (leaves s)
  exact .of_same container mRepo

/-- What the operations without texts keep to. -/
def quietRules : Rules where
  checked := False
  quiet := True
  lasting := False
  acknowledges := True

/-- One atomic step of an operation without texts. -/
theorem keepsTexts_exec {notes : Notes} {a : Atom w}
    (guard : (discipline quietRules).guard notes a) (s : Core w) :
    KeepsTexts s (a.exec p env s).2 := by
  have emplace : ∀ (s : Core w) dialogId element,
      ((s.emplaceCipher dialogId element).mMessageContainer,
        (s.emplaceCipher dialogId element).mRepo) = (s.mMessageContainer, s.mRepo) := by
    intro s dialogId element
    unfold Core.emplaceCipher
    split <;> rfl
  cases a with
  | saveDialog dialog => exact keepsTexts_saveDialog p s dialog
  | addMessage dialogId message => exact keepsTexts_addMessage s dialogId (guard trivial)
  | storeDelivery handler k timeout => exact keepsTexts_store s (guard trivial) _ k timeout
  | setActiveDialog dialogId => exact keepsTexts_setActiveDialog s dialogId
  | addToActiveDialog | updateMessage | eraseDelivery => exact absurd trivial guard
  | transmit channel message =>
    exact .of_leaves (channelSendMessage_leaves env (fun _ _ => rfl) channel message) s
  | generateAndExportKey dialogId address =>
    exact .of_leaves (generateAndExportKey_leaves p env emplace dialogId address) s
  | importKey dialogId message => exact .of_leaves (importKey_leaves p emplace dialogId message) s
  | addDialog | addDiscovered =>
    refine .of_leaves ?_ s
    apply Eff.Leaves.bind (.reads _)
    intro stored
    split
    · exact .raise _
    · exact .update fun _ => rfl
  | wrapper | getContact | createSignature | checkVerificationString | encryptMessageBody
  | decryptMessageBody => exact .of_leaves (.readsOr _) s
  | _ => exact .of_same rfl rfl

/-- A whole operation without texts. -/
theorem keepsTexts_run {m : Steps w Unit} (keeps : Keeps quietRules (fun _ => .unseen) m)
    (s : Core w) : KeepsTexts s (m.run (Atom.exec p env) s).2 :=
  run_of_keeps p env (R := KeepsTexts) (fun _ => .of_same rfl rfl) KeepsTexts.trans
    (keepsTexts_exec p env) keeps s

/-! ## Callbacks -/

/-- The callback of a text runs and the delivery is taken out. -/
def Core.settleText (s : Core w) (k : NumberedKey w) (dialogId : Str) (number : Nat)
    (status : UserMessage.Status) : Core w :=
  { s with
    mMessageContainer := s.mMessageContainer.updateMessage dialogId number status
    mRepo := s.mRepo.erase k }

theorem pends_settleText (s : Core w) (k : NumberedKey w) (dialogId : Str) (number : Nat)
    (status : UserMessage.Status) (other : NumberedKey w) (owner : Str) (last : Nat) :
    (s.settleText k dialogId number status).Pends other owner last ↔
      s.Pends other owner last ∧ k ≠ other := by
  unfold Core.Pends
  rw [Core.settleText, getElem?_erase]
  constructor
  · rintro ⟨stored, left, text⟩
    split at left
    · cases left
    · rename_i different
      exact ⟨⟨stored, left, text⟩, different⟩
  · rintro ⟨⟨stored, found, text⟩, different⟩
    refine ⟨stored, ?_, text⟩
    rw [if_neg different]
    exact found

theorem removed_mRepo (handler : DeliveryHandler) :
    Eff.Leaves (·.mRepo) (removed p handler) := by
  cases handler with
  | messageNotDeliveried dialogId number => exact .update fun _ => rfl
  | dialogAction dialogId mNext mAbortNeed mAddress mChannel =>
    apply Eff.Leaves.bind (.readsOr _)
    intro dialog
    apply Eff.Leaves.bind
    · unfold setStatus
      split
      · exact .pure _
      · exact .raise _
    · intro changed
      exact .update fun _ => rfl

/-- A pending control message, its callback and its removal, whether the callback throws or not. -/
theorem keepsTexts_settleControl {s : Core w} {k : NumberedKey w} {α : Type} {result : α}
    {stored : StoredElement DeliveryHandler} (found : s.mRepo[k]? = some stored)
    (control : stored.element.IsControl) {callback : M w Unit} (keeps : KeepsTexts s (callback s).2)
    (same : (callback s).2.mRepo = s.mRepo) :
    KeepsTexts s ((do
      callback
      Eff.update fun s => { s with mRepo := s.mRepo.erase k }
      pure result : M w α) s).2 := by
  rw [Eff.bind_apply]
  rcases outcome : callback s with ⟨e | u, s'⟩ <;> rw [outcome] at keeps same
  · exact keeps
  · apply keeps.trans
    rw [← same] at found
    exact keepsTexts_erase found control

include env in
/-- The ACK of a pending delivery. -/
theorem removeEntry_texts (k : NumberedKey w) (s : Core w) :
    KeepsTexts s (removeEntry p k s).2 ∨ ∃ dialogId number, s.Pends k dialogId number ∧
      (removeEntry p k s).2 = s.settleText k dialogId number .deliveried := by
  rw [removeEntry, Eff.reads_bind]
  cases found : s.mRepo[k]? with
  | none => exact .inl (.of_same rfl rfl)
  | some stored =>
    dsimp only
    cases handler : stored.element with
    | messageNotDeliveried dialogId number =>
      exact .inr ⟨dialogId, number, ⟨stored, found, handler⟩, rfl⟩
    | dialogAction dialogId mNext mAbortNeed mAddress mChannel =>
      left
      apply keepsTexts_settleControl found
      · rw [handler]
        trivial
      · rw [← @Steps.run_removed w p env]
        apply keepsTexts_run
        apply Steps.keeps_removed
        intro _ _ other
        cases other
      · exact removed_mRepo p _ s

/-- The expiry of a pending delivery. -/
theorem expireEntry_texts (k : NumberedKey w) (s : Core w) :
    KeepsTexts s (expireEntry p env k s).2 ∨ ∃ dialogId number, s.Pends k dialogId number ∧
      (expireEntry p env k s).2 = s.settleText k dialogId number .notDeliveried := by
  rw [expireEntry, Eff.noexcept_state, Eff.reads_bind]
  cases late : s.mRepo.overdue env.systemClock k with
  | none => exact .inl (.of_same rfl rfl)
  | some element =>
    obtain ⟨stored, found, handler⟩ := TimeoutedRepository.overdue_eq_some s.mRepo late
    dsimp only
    cases element with
    | messageNotDeliveried dialogId number =>
      exact .inr ⟨dialogId, number, ⟨stored, found, handler⟩, rfl⟩
    | dialogAction dialogId mNext mAbortNeed mAddress mChannel =>
      left
      apply keepsTexts_settleControl found
      · rw [handler]
        trivial
      · rw [← Steps.run_timeouted]
        apply keepsTexts_run
        apply Steps.keeps_timeouted
        · intro _ _ other
          cases other
        · intro _ _ _ _ _
          exact id
      · exact timeouted_mRepo p env _ s

/-! ## The user's texts -/

/-- The user's text gets into the container, as one of the active dialog that waits for
delivery. -/
structure ShowsText (s : Core w) (text : Str) (dialog : Dialog w) (contact : Contact)
    (content : Str) : Prop where
  stored : s.mDialogStorage.find s.mMessageContainer.mActiveDialog = some dialog
  known : s.mContactStorage[dialog.mContactId]? = some contact
  allowed : isMessageActionAllowed dialog.mStatus .message = true
  encrypted : encryptMessageBody p s.mCiphers dialog.mDialogId text = .ok content
  opened : s.mMessageContainer.mActiveDialog ∈ s.mMessageContainer.mMessages

/-- The message that is made of the text. -/
def textRequest (dialog : Dialog w) (contact : Contact) (text content : Str) : DialogMessage w :=
  (requestMessage env .message dialog contact text).setContent content

/-- What makes the delivery of the text pending: the channel of the contact is connected, the
message is signed, and its key is free. -/
def TextPends (s : Core w) (dialog : Dialog w) (contact : Contact) (text content : Str) : Prop :=
  ReachesChannel env s (textRequest env dialog contact text content) contact.channelMoniker ∧
    s.mRepo[(dialog.mDialogId, dialog.mThisSequental + 1)]? = none

/-- `sendMessage` without a selected dialog tells the user so and goes on. -/
def textStart (s : Core w) : Core w :=
  if s.mMessageContainer.mActiveDialog = [] then
    s.record (.notified .error (p.text "Select one dialog for texting" []))
  else s

/-- The note that replaces a text that could not be sent. -/
def failedText (ex : Exn) : UserMessage where
  mStatus := .error
  mType := .system
  mContent := p.text "Failed to send messsage, reason: \x7b\x7d" [ex.what]

theorem sendMessage_eq (text : Str) (s : Core w) :
    MessageActionHandler.sendMessage p env text s =
      Eff.catching
        (MessageActionHandler.sendText p env s.mMessageContainer.mActiveDialog text)
        (fun ex => addMessage s.mMessageContainer.mActiveDialog (failedText p ex))
        (textStart p s) := by
  rw [MessageActionHandler.sendMessage, Eff.reads_bind, textStart]
  split <;> rfl

/-- The text is in the container, and the delivery is pending if it could be. -/
structure TextShown (s s' : Core w) (text : Str) (dialog : Dialog w) (contact : Contact)
    (content : Str) : Prop where
  container : s'.mMessageContainer =
    s.mMessageContainer.addText s.mMessageContainer.mActiveDialog text false
  pending : ReachesChannel env s (textRequest env dialog contact text content)
      contact.channelMoniker → ∃ wait, s'.mRepo =
    s.mRepo.store env.systemClock
      (.messageNotDeliveried s.mMessageContainer.mActiveDialog s.mMessageContainer.mNext)
      (dialog.mDialogId, dialog.mThisSequental + 1) wait
  unsent : ¬ ReachesChannel env s (textRequest env dialog contact text content)
      contact.channelMoniker → s'.mRepo = s.mRepo ∧ s'.log = s.log
  handed : ReachesChannel env s (textRequest env dialog contact text content)
      contact.channelMoniker → ∃ sign sent, s'.log = s.log ++ [.handed contact.channelMoniker
    ((textRequest env dialog contact text content).setSignature sign) sent]

/-- What `MessageDespatcher::sendMessage` does to the pending deliveries. -/
theorem sendMessage_pending (message : DialogMessage w) (channelName : Str)
    (handler : DeliveryHandler) (s : Core w) :
    (sendMessage env message channelName handler s).2.mMessageContainer = s.mMessageContainer ∧
      (ReachesChannel env s message channelName → ∃ wait,
        (sendMessage env message channelName handler s).2.mRepo =
          s.mRepo.store env.systemClock handler (message.mDialogId, message.mSequentialNumber)
            wait) ∧
      (¬ ReachesChannel env s message channelName →
        (sendMessage env message channelName handler s).2.mRepo = s.mRepo ∧
          (sendMessage env message channelName handler s).2.log = s.log) ∧
      (ReachesChannel env s message channelName → ∃ sign sent,
        (sendMessage env message channelName handler s).2.log =
          s.log ++ [.handed channelName (message.setSignature sign) sent]) := by
  rw [sendMessage, Eff.reads_bind]
  cases connected : s.mChannels[channelName]? with
  | none =>
    have lost : ¬ ReachesChannel env s message channelName := by
      rintro ⟨channel, -⟩
      rw [Std.ExtTreeMap.mem_iff_isSome_getElem?, connected] at channel
      cases channel
    exact ⟨rfl, fun reaches => absurd reaches lost, fun _ => ⟨rfl, rfl⟩,
      fun reaches => absurd reaches lost⟩
  | some wait =>
    dsimp only
    rw [createSignature, Eff.readsOr_bind]
    cases signed : env.createSign s.log (marshall message) with
    | error e =>
      have lost : ¬ ReachesChannel env s message channelName := by
        rintro ⟨-, sign, other⟩
        rw [signed] at other
        cases other
      exact ⟨rfl, fun reaches => absurd reaches lost, fun _ => ⟨rfl, rfl⟩,
        fun reaches => absurd reaches lost⟩
    | ok sign =>
      have reaches : ReachesChannel env s message channelName := by
        refine ⟨?_, sign, signed⟩
        rw [Std.ExtTreeMap.mem_iff_isSome_getElem?, connected]
        rfl
      simp only [Eff.update_bind]
      rw [channelSendMessage_eq]
      split
      · exact ⟨rfl, fun _ => ⟨wait, rfl⟩, fun lost => absurd reaches lost,
          fun _ => ⟨sign, true, rfl⟩⟩
      · exact ⟨rfl, fun _ => ⟨wait, rfl⟩, fun lost => absurd reaches lost,
          fun _ => ⟨sign, false, rfl⟩⟩

/-- A dialog that may send texts is not ended, so its save adds no note. -/
theorem saveDialog_of_texting {dialog : Dialog w}
    (allowed : isMessageActionAllowed dialog.mStatus .message = true) (s : Core w) :
    (s.saveDialog p dialog.makeNextSequental).mMessageContainer = s.mMessageContainer := by
  have active : dialog.mStatus = .active := isMessageActionAllowed_message.mp allowed
  have open' : dialog.makeNextSequental.mStatus.isEnded = false := by
    rw [show dialog.makeNextSequental.mStatus = dialog.mStatus from rfl, active]
    rfl
  show s.mMessageContainer.dialogChanged p.dgettext dialog.makeNextSequental = _
  rw [MessageContainer.dialogChanged, open']
  rfl

/-- `sendText` shows a text, or changes nothing about texts. -/
theorem sendText_cases (text : Str) (s : Core w) :
    (∃ dialog contact content, ShowsText p s text dialog contact content ∧
      TextShown env s
        (MessageActionHandler.sendText p env s.mMessageContainer.mActiveDialog text s).2
        text dialog contact content) ∨
    (¬ ∃ dialog contact content, ShowsText p s text dialog contact content) ∧
      KeepsTexts s
        (MessageActionHandler.sendText p env s.mMessageContainer.mActiveDialog text s).2 := by
  unfold MessageActionHandler.sendText
  cases found : s.mDialogStorage.find s.mMessageContainer.mActiveDialog with
  | none =>
    rw [Eff.bind_error (wrapper_of_none p found)]
    refine .inr ⟨?_, .of_same rfl rfl⟩
    rintro ⟨dialog, contact, content, shows⟩
    cases found.symm.trans shows.stored
  | some dialog =>
    rw [Eff.bind_ok (wrapper_of_some p found)]
    cases contactFound : s.mContactStorage[dialog.mContactId]? with
    | none =>
      rw [Eff.bind_error (getContact_of_none p contactFound)]
      refine .inr ⟨?_, .of_same rfl rfl⟩
      rintro ⟨other, contact, content, shows⟩
      obtain rfl := Option.some.inj (found.symm.trans shows.stored)
      cases contactFound.symm.trans shows.known
    | some contact =>
      rw [Eff.bind_ok (getContact_of_some p contactFound), makeTextMessage]
      by_cases allowed : isMessageActionAllowed dialog.mStatus .message = true
      swap
      · obtain ⟨e, refused⟩ := makeMessage_of_refused p env (by simpa using allowed) contact text s
        rw [Eff.bind_error refused]
        refine .inr ⟨?_, .of_same rfl rfl⟩
        rintro ⟨other, _, content, shows⟩
        obtain rfl := Option.some.inj (found.symm.trans shows.stored)
        exact allowed shows.allowed
      rw [Eff.bind_ok (makeMessage_of_allowed p env allowed contact text s)]
      simp only [save, Eff.update_bind, Eff.readsOr_bind]
      have container := saveDialog_of_texting p allowed s
      generalize saved : s.saveDialog p dialog.makeNextSequental = s₁ at container
      have ciphers : s₁.mCiphers = s.mCiphers := by rw [← saved, Core.saveDialog]
      have mRepo : s₁.mRepo = s.mRepo := by rw [← saved, Core.saveDialog]
      have log : s₁.log = s.log := by rw [← saved, Core.saveDialog]
      have reaches : ∀ message channel,
          ReachesChannel env s₁ message channel ↔ ReachesChannel env s message channel := by
        intro message channel
        rw [← saved]
        exact Iff.rfl
      rw [ciphers]
      cases encrypted : encryptMessageBody p s.mCiphers
          (requestMessage env .message dialog contact text).mDialogId
          (requestMessage env .message dialog contact text).mContent with
      | error e =>
        refine .inr ⟨?_, .of_same container mRepo⟩
        rintro ⟨other, _, content, shows⟩
        obtain rfl := Option.some.inj (found.symm.trans shows.stored)
        cases encrypted.symm.trans shows.encrypted
      | ok content =>
        simp only [MessageActionHandler.addToActiveDialogWithWrapper]
        rw [Eff.bind_assoc, Eff.reads_bind, container,
          MessageContainer.addToActiveDialogWithWrapper]
        by_cases opened : s.mMessageContainer.mActiveDialog ∈ s.mMessageContainer.mMessages
        · rw [if_pos opened]
          dsimp only
          rw [Eff.bind_assoc, Eff.update_bind, Eff.pure_bind]
          obtain ⟨shown, pending, unsent, handed⟩ := sendMessage_pending env
            (textRequest env dialog contact text content) contact.channelMoniker
            (.messageNotDeliveried s.mMessageContainer.mActiveDialog s.mMessageContainer.mNext)
            { s₁ with mMessageContainer :=
                s.mMessageContainer.addText s.mMessageContainer.mActiveDialog text false }
          refine .inl ⟨dialog, contact, content, ⟨found, contactFound, allowed, encrypted, opened⟩,
            shown, ?_, ?_, ?_⟩
          · intro connected
            obtain ⟨wait, stored⟩ := pending ((reaches _ _).mpr connected)
            exact ⟨wait, stored.trans (by rw [mRepo]; rfl)⟩
          · intro lost
            obtain ⟨sameRepo, sameLog⟩ := unsent fun connected => lost ((reaches _ _).mp connected)
            exact ⟨sameRepo.trans mRepo, sameLog.trans log⟩
          · intro connected
            obtain ⟨sign, sent, after⟩ := handed ((reaches _ _).mpr connected)
            exact ⟨sign, sent, after.trans (by rw [log])⟩
        · rw [if_neg opened]
          refine .inr ⟨?_, .of_same container mRepo⟩
          rintro ⟨_, _, _, shows⟩
          exact opened shows.opened

theorem textStart_same (s : Core w) :
    (textStart p s).mMessageContainer = s.mMessageContainer ∧
      (textStart p s).mRepo = s.mRepo := by
  unfold textStart
  split <;> exact ⟨rfl, rfl⟩

theorem keepsTexts_textStart (s : Core w) : KeepsTexts s (textStart p s) := by
  obtain ⟨container, mRepo⟩ := textStart_same p s
  exact .of_same container mRepo

/-- The note about an exception that ends the attempt is not the user's. -/
theorem sendMessage_note (text : Str) (s : Core w) :
    ∃ s₁, (MessageActionHandler.sendText p env s.mMessageContainer.mActiveDialog text
        (textStart p s)).2 = s₁ ∧
      KeepsTexts s₁ (MessageActionHandler.sendMessage p env text s).2 ∧
      (MessageActionHandler.sendMessage p env text s).2.log = s₁.log := by
  rw [sendMessage_eq]
  unfold Eff.catching
  rcases MessageActionHandler.sendText p env s.mMessageContainer.mActiveDialog text
      (textStart p s) with ⟨(e | _) | u, s₁⟩
  · refine ⟨s₁, rfl, ?_, rfl⟩
    apply keepsTexts_addMessage s₁
    intro outgoing
    cases outgoing
  · exact ⟨s₁, rfl, .of_same rfl rfl, rfl⟩
  · exact ⟨s₁, rfl, .of_same rfl rfl, rfl⟩

/-! ## Steps -/

/-- What runs the callback of a text, and the status that the text gets. -/
inductive Settles : Input w → NumberedKey w → UserMessage.Status → Prop
  | ack {message : DialogMessage w} (channelName : Str) (action : message.mAction = .ack) :
    Settles (.dispatch message channelName) (message.mDialogId, message.mSequentialNumber)
      .deliveried
  | expiry (k : NumberedKey w) : Settles (.expire k) k .notDeliveried

/-- The user's text gets into the container in this step. -/
def ShowsSomeText (s : Core w) (step : Step w) : Prop :=
  s.alive = true ∧ ∃ text, step.2 = .sendMessage text ∧
    ∃ dialog contact content, ShowsText p (textStart p s) text dialog contact content

/-- What a step does to the texts of the user. -/
inductive TextStep (s : Core w) (step : Step w) : Core w → Prop
  | keeps {s' : Core w} (keeps : KeepsTexts s s') (nothing : ¬ ShowsSomeText p s step) :
    TextStep s step s'
  | restart {s' : Core w} (cause : step.2 = .restart) (fresh : s' = s.restart) : TextStep s step s'
  | settle {k : NumberedKey w} {dialogId : Str} {number : Nat} {status : UserMessage.Status}
    {s' : Core w} (cause : Settles step.2 k status) (pends : s.Pends k dialogId number)
    (keeps : KeepsTexts (s.settleText k dialogId number status) s') : TextStep s step s'
  | newText {text : Str} {dialog : Dialog w} {contact : Contact} {content : Str} {s₁ s' : Core w}
    (alive : s.alive = true) (cause : step.2 = .sendMessage text)
    (shows : ShowsText p (textStart p s) text dialog contact content)
    (shown : TextShown step.1 (textStart p s) s₁ text dialog contact content)
    (keeps : KeepsTexts s₁ s') (log : s'.log = s₁.log) : TextStep s step s'

/-- Termination leaves what is shown and what is pending. -/
theorem exec_texts (input : Input w) {s : Core w} (alive : s.alive = true) :
    KeepsTexts (perform p env input s).2 (exec p env input s) ∧
      (exec p env input s).log = (perform p env input s).2.log := by
  obtain ⟨running, stepped⟩ := exec_of_alive p env input alive
  rw [stepped]
  exact ⟨.of_same rfl rfl, rfl⟩

/-- Everything but a text of the user, an ACK, an expiry and a restart leaves the texts alone. -/
theorem keepsTexts_perform {input : Input w} (permitted : quietRules.Permit input)
    (running : input ≠ .restart) (s : Core w) : KeepsTexts s (perform p env input s).2 := by
  cases steps : Operation.steps p env (.ofInput input) with
  | some m =>
    exact perform_of_keeps p env (R := KeepsTexts) (fun _ => .of_same rfl rfl) KeepsTexts.trans
      (keepsTexts_exec p env) steps permitted s
  | none =>
    obtain ⟨contacts, remote, channels, outcome⟩ := perform_of_none p env steps running s
    rw [outcome]
    exact .of_same rfl rfl

variable {p env}

theorem TextShown.log {s s' : Core w} {text content : Str} {dialog : Dialog w} {contact : Contact}
    (shown : TextShown env s s' text dialog contact content) :
    ∃ events, s'.log = s.log ++ events := by
  by_cases reaches : ReachesChannel env s (textRequest env dialog contact text content)
      contact.channelMoniker
  · obtain ⟨sign, sent, log⟩ := shown.handed reaches
    exact ⟨_, log⟩
  · exact ⟨[], by rw [(shown.unsent reaches).2, List.append_nil]⟩

/-- The pending deliveries of texts after a text is shown: the old ones, and that of the text if
its delivery could be made pending. -/
theorem TextShown.pends_iff {s s' : Core w} {text content : Str} {dialog : Dialog w}
    {contact : Contact} (shown : TextShown env s s' text dialog contact content)
    (k : NumberedKey w) (dialogId : Str) (number : Nat) :
    s'.Pends k dialogId number ↔ s.Pends k dialogId number ∨
      TextPends env s dialog contact text content ∧
        k = (dialog.mDialogId, dialog.mThisSequental + 1) ∧
        dialogId = s.mMessageContainer.mActiveDialog ∧ number = s.mMessageContainer.mNext := by
  by_cases reaches : ReachesChannel env s (textRequest env dialog contact text content)
      contact.channelMoniker
  · obtain ⟨wait, stored⟩ := shown.pending reaches
    rw [Core.Pends, stored, TimeoutedRepository.getElem?_store, TextPends, and_iff_right reaches]
    constructor
    · rintro ⟨entry, found, handler⟩
      split at found
      · rename_i free
        obtain ⟨rfl, free⟩ := free
        obtain rfl := Option.some.inj found
        obtain ⟨rfl, rfl⟩ := DeliveryHandler.messageNotDeliveried.inj handler
        exact .inr ⟨free, rfl, rfl, rfl⟩
      · exact .inl ⟨entry, found, handler⟩
    · rintro (⟨entry, found, handler⟩ | ⟨free, rfl, rfl, rfl⟩)
      · refine ⟨entry, ?_, handler⟩
        rw [if_neg]
        · exact found
        · rintro ⟨rfl, free⟩
          cases free.symm.trans found
      · exact ⟨_, if_pos ⟨rfl, free⟩, rfl⟩
  · rw [Core.Pends, Core.Pends, (shown.unsent reaches).1]
    constructor
    · exact .inl
    · rintro (old | ⟨pends, -⟩)
      · exact old
      · exact absurd pends.1 reaches

theorem textStep_of_settled {s s₁ : Core w} {step : Step w} {k : NumberedKey w}
    {status : UserMessage.Status} (cause : Settles step.2 k status)
    (settled : KeepsTexts s s₁ ∨ ∃ dialogId number, s.Pends k dialogId number ∧
      s₁ = s.settleText k dialogId number status) {s' : Core w} (keeps : KeepsTexts s₁ s') :
    TextStep p s step s' := by
  rcases settled with kept | ⟨dialogId, number, pends, rfl⟩
  · apply TextStep.keeps (kept.trans keeps)
    rintro ⟨-, text, sends, -⟩
    rw [sends] at cause
    cases cause
  · exact .settle cause pends keeps

theorem textStep_sendMessage (text : Str) {s : Core w} (alive : s.alive = true) :
    TextStep p s (env, .sendMessage text) (exec p env (.sendMessage text) s) := by
  obtain ⟨last, sameLog⟩ := exec_texts p env (.sendMessage text) alive
  obtain ⟨s₁, attempt, note, noteLog⟩ := sendMessage_note p env text s
  have cases := sendText_cases p env text (textStart p s)
  rw [(textStart_same p s).1, attempt] at cases
  rcases cases with ⟨dialog, contact, content, shows, shown⟩ | ⟨nothing, keeps⟩
  · exact .newText alive rfl shows shown (note.trans last) (sameLog.trans noteLog)
  · apply TextStep.keeps ((keepsTexts_textStart p s).trans (keeps.trans (note.trans last)))
    rintro ⟨-, other, same, shows⟩
    obtain rfl := Input.sendMessage.inj same
    exact nothing shows

/-- Every step is one of these. -/
theorem textStep_next (s : Core w) (step : Step w) : TextStep p s step (next p s step) := by
  obtain ⟨env, input⟩ := step
  rw [next]
  by_cases restarts : input = .restart
  · subst restarts
    exact .restart rfl (exec_restart p env s)
  by_cases alive : s.alive = true
  swap
  · rw [exec_of_dead p env (by simp [alive, restarts])]
    exact .keeps (.of_same rfl rfl) fun shows => alive shows.1
  obtain ⟨last, -⟩ := exec_texts p env input alive
  have quiet : quietRules.Permit input → (∀ text, input ≠ .sendMessage text) →
      TextStep p s (env, input) (exec p env input s) := by
    intro permitted noText
    apply TextStep.keeps ((keepsTexts_perform p env permitted restarts s).trans last)
    rintro ⟨-, text, sends, -⟩
    exact noText text sends
  cases input with
  | sendMessage text => exact textStep_sendMessage text alive
  | expire k => exact textStep_of_settled (.expiry k) (expireEntry_texts p env k s) last
  | dispatch message channelName =>
    by_cases ack : message.mAction = .ack
    · have settled := removeEntry_texts p env (message.mDialogId, message.mSequentialNumber) s
      have dispatched : (dispatch p env message channelName s).2 = _ := dispatch_of_ack ack s
      rw [← dispatched] at settled
      exact textStep_of_settled (.ack channelName ack) settled last
    · exact quiet ⟨fun other => absurd other ack, fun _ => trivial⟩ (by simp)
  | removeDialog dialogId => exact quiet id (by simp)
  | _ => exact quiet trivial (by simp)

end

end SecureDialogues
