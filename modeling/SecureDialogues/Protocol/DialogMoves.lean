import SecureDialogues.Communication.SendProps
import SecureDialogues.Protocol.Move

/-!
# The moves of requests and aborts

`sendRequest` and `abortDialog`, of which the user's dialog operations and the answers to control
messages are made.
-/

namespace SecureDialogues

open Text Effect

section

variable {w : Nat} {p : Platform w} {env : Env w} {start : Core w} {input : Input w}

/-- Nothing was sent for the dialog in this step. -/
def Ready (start : Core w) (v : View w) (dialogId : Str) : Prop :=
  ∀ dialog, v.dialogs dialogId = some dialog → Unsent start v dialog

theorem ready_start (dialogId : Str) : Ready start start.view dialogId := by
  intro dialog found
  refine ⟨rfl, .inl ⟨dialog, ?_, rfl, rfl⟩⟩
  rw [DialogStorage.mDialogId_of_find found]
  exact found

/-- A part of the step that leaves the dialog, the deliveries and what was handed for the dialog
as they were. -/
theorem Ready.congr {v v' : View w} {dialogId : Str} (ready : Ready start v dialogId)
    (keyed : ∀ dialog, v.dialogs dialogId = some dialog → dialog.mDialogId = dialogId)
    (dialogs : v'.dialogs dialogId = v.dialogs dialogId) (pending : v'.pending = v.pending)
    (handed : handedNumbers dialogId v'.log = handedNumbers dialogId v.log) :
    Ready start v' dialogId := by
  intro dialog found
  rw [dialogs] at found
  obtain ⟨same, counter⟩ := ready dialog found
  refine ⟨pending.trans same, counter.imp_right fun none => ?_⟩
  rw [keyed dialog found] at none ⊢
  exact handed.trans none

theorem Asks.isControl {dialogId : Str} {action : Action} {mNext : Status}
    {mAbortNeed : Bool} (asks : Asks env input dialogId action mNext mAbortNeed) :
    DialogActionHandler.isItYouAction action = true := by
  cases asks <;> rfl

/-- The outcome of sending a message of a dialog: it returns, or an exception leaves the state as it
was or comes from a failed transmission. -/
def Requested (start s : Core w) (r : Except (Fault Exn) Unit) (s' : Core w) : Prop :=
  r = .ok () ∨ (∃ e, r = .error (.thrown e)) ∧ (s' = s ∨ SendFails start s'.log)

/-- No delivery became pending, unless the dialog is connected. -/
def Quiet (start s : Core w) (dialogId : Str) (s' : Core w) : Prop :=
  s'.mRepo = s.mRepo ∨ ∃ dialog, s.mDialogStorage.find dialogId = some dialog ∧
    Connected start dialog

theorem sendRequest_does {dialogId : Str} {action : Action} {mNext : Status} {mAbortNeed : Bool}
    (asks : Asks env input dialogId action mNext mAbortNeed) (mAddress mChannel content : Str)
    {s : Core w} (ready : Ready start s.view dialogId)
    (contacts : s.mContactStorage = start.mContactStorage)
    (channels : s.mChannels = start.mChannels) (grown : start.log.length ≤ s.log.length) :
    Eff.Does (Moves p env start input)
      (DialogActionHandler.sendRequest p env dialogId action
        (.dialogAction dialogId mNext mAbortNeed mAddress mChannel) content) s
      fun r s' => Requested start s r s' ∧ Quiet start s dialogId s' := by
  unfold DialogActionHandler.sendRequest
  cases found : s.mDialogStorage.find dialogId with
  | none =>
    rw [Eff.Does, Eff.bind_error (wrapper_of_none p found)]
    exact ⟨.refl, .inr ⟨⟨_, rfl⟩, .inl rfl⟩, .inl rfl⟩
  | some dialog =>
    obtain rfl := DialogStorage.mDialogId_of_find found
    rw [Eff.Does, Eff.bind_ok (wrapper_of_some p found)]
    cases contactFound : s.mContactStorage[dialog.mContactId]? with
    | none =>
      rw [Eff.bind_error (getContact_of_none p contactFound)]
      exact ⟨.refl, .inr ⟨⟨_, rfl⟩, .inl rfl⟩, .inl rfl⟩
    | some contact =>
      rw [Eff.bind_ok (getContact_of_some p contactFound)]
      by_cases allowed : isMessageActionAllowed dialog.mStatus action = true
      swap
      · obtain ⟨e, refused⟩ := makeMessage_of_refused p env (by simpa using allowed) contact
          content s
        rw [Eff.bind_error refused]
        exact ⟨.refl, .inr ⟨⟨_, rfl⟩, .inl rfl⟩, .inl rfl⟩
      rw [Eff.bind_ok (makeMessage_of_allowed p env allowed contact content s)]
      simp only
      have unsent := ready dialog found
      rcases sendMessage_cases env (requestMessage env action dialog contact content)
          contact.channelMoniker
          (.dialogAction dialog.mDialogId mNext mAbortNeed mAddress mChannel) s with
        ⟨-, skipped⟩ | ⟨e, -, unsigned⟩ | ⟨sign, wait, joined, attempt⟩
      · rw [Eff.bind_ok skipped]
        refine ⟨.single ?_, .inl rfl, .inl rfl⟩
        rw [save, Eff.update_apply, Core.view_saveDialog]
        exact .skip unsent found
      · rw [Eff.bind_error unsigned]
        exact ⟨.refl, .inr ⟨⟨_, rfl⟩, .inl rfl⟩, .inl rfl⟩
      have connected : Connected start dialog :=
        ⟨contact, contacts ▸ contactFound, channels ▸ joined⟩
      rcases attempt with ⟨-, sent⟩ | ⟨e, failed, unsent'⟩
      · rw [Eff.bind_ok sent]
        refine ⟨.single ?_, .inl rfl, .inr ⟨dialog, found, connected⟩⟩
        rw [save, Eff.update_apply, Core.view_saveDialog, Core.view_record, Core.view_store]
        exact .request asks unsent found allowed connected rfl rfl rfl
      · rw [Eff.bind_error unsent']
        refine ⟨.single ?_, .inr ⟨⟨_, rfl⟩, .inr (sendFails grown _ asks.isControl)⟩,
          .inr ⟨dialog, found, connected⟩⟩
        rw [Core.view_record, Core.view_store]
        exact .requestFailed asks unsent found allowed connected rfl

/-- `abortDialog` aborts a dialog that has not ended, or leaves the dialogs alone. -/
theorem abortDialog_does {dialogId : Str} {s : Core w}
    (cause : AbortCause p env start input s.view dialogId)
    (ready : Ready start s.view dialogId ∨ SentInVain p env start input s.view)
    (grown : start.log.length ≤ s.log.length) :
    Eff.Does (Moves p env start input) (DialogActionHandler.abortDialog p env dialogId) s
      fun r s' => Requested start s r s' ∧ s'.mRepo = s.mRepo := by
  unfold DialogActionHandler.abortDialog
  cases found : s.mDialogStorage.find dialogId with
  | none =>
    rw [Eff.Does, Eff.bind_error (wrapper_of_none p found)]
    exact ⟨.refl, .inr ⟨⟨_, rfl⟩, .inl rfl⟩, rfl⟩
  | some dialog =>
    obtain rfl := DialogStorage.mDialogId_of_find found
    rw [Eff.Does, Eff.bind_ok (wrapper_of_some p found)]
    cases contactFound : s.mContactStorage[dialog.mContactId]? with
    | none =>
      rw [Eff.bind_error (getContact_of_none p contactFound)]
      exact ⟨.refl, .inr ⟨⟨_, rfl⟩, .inl rfl⟩, rfl⟩
    | some contact =>
      rw [Eff.bind_ok (getContact_of_some p contactFound)]
      by_cases ended : dialog.mStatus.isEnded = true
      · rw [if_neg (by simp [isMessageActionAllowed_abort, ended])]
        exact ⟨.refl, .inl rfl, rfl⟩
      have open' : dialog.mStatus.isEnded = false := by simpa using ended
      rw [if_pos (by simp [isMessageActionAllowed_abort, open'])]
      have unsent : Unsent start s.view dialog ∨ SentInVain p env start input s.view :=
        ready.imp_left (· dialog found)
      have live : dialog.makeNextSequental.mStatus.isEnded = false := open'
      have closing : ∀ s' : Core w, (setStatus p dialog.makeNextSequental .aborted >>= save p) s' =
          (.ok (), s'.saveDialog p (dialog.makeNextSequental.withStatus .aborted)) := fun s' => by
        rw [Eff.bind_ok (setAborted_of_open p live s')]
        rfl
      rcases sendAndForget_cases env (makeAbort env.getTimestamp
          dialog.makeNextSequental.mDialogId contact.adress
          dialog.makeNextSequental.mThisSequental) contact.channelMoniker s with
        ⟨e, -, unsigned⟩ | ⟨-, skipped⟩ | ⟨sign, ⟨-, sent⟩ | ⟨e, failed, unsent'⟩⟩
      · rw [Eff.bind_error unsigned]
        exact ⟨.refl, .inr ⟨⟨_, rfl⟩, .inl rfl⟩, rfl⟩
      · rw [Eff.bind_ok skipped, closing]
        refine ⟨.single ?_, .inl rfl, rfl⟩
        rw [Core.view_saveDialog]
        have move : Move p env start input s.view ((s.view.record []).setDialog
            (dialog.makeNextSequental.withStatus .aborted)) :=
          .abort cause unsent found open' (by simp) (by simp)
        rwa [View.record_nil] at move
      · rw [Eff.bind_ok sent, closing]
        refine ⟨.single ?_, .inl rfl, rfl⟩
        rw [Core.view_saveDialog, Core.view_record]
        refine .abort cause unsent found open' (fun event member => ?_) (by simp)
        rw [List.mem_singleton] at member
        exact ⟨_, _, member, rfl, rfl, rfl⟩
      · rw [Eff.bind_error unsent']
        refine ⟨.single ?_, .inr ⟨⟨_, rfl⟩, .inr (sendFails grown _ rfl)⟩, rfl⟩
        rw [Core.view_record]
        exact .abortFailed rfl

/-! ## The user's operations -/

theorem closeDialog_does {dialogId : Str}
    (asks : Asks env input dialogId .closeDialog .closed false)
    (cause : AbortCause p env start input start.view dialogId) :
    Eff.Does (Moves p env start input) (DialogActionHandler.closeDialog p env dialogId) start
      fun _ s' => s'.mRepo = start.mRepo ∨ ∃ dialog,
        start.mDialogStorage.find dialogId = some dialog ∧ dialog.mStatus = .active ∧
          Connected start dialog := by
  unfold DialogActionHandler.closeDialog
  cases found : start.mDialogStorage.find dialogId with
  | none =>
    rw [Eff.Does, Eff.bind_error (wrapper_of_none p found)]
    exact ⟨.refl, .inl rfl⟩
  | some dialog =>
    rw [Eff.Does, Eff.bind_ok (wrapper_of_some p found)]
    by_cases active : dialog.mStatus = .active
    · rw [if_pos active]
      cases contactFound : start.mContactStorage[dialog.mContactId]? with
      | none =>
        rw [Eff.bind_error (getContact_of_none p contactFound)]
        exact ⟨.refl, .inl rfl⟩
      | some contact =>
        rw [Eff.bind_ok (getContact_of_some p contactFound)]
        obtain ⟨moves, -, quiet⟩ :=
          sendRequest_does (p := p) asks _ _ [] (ready_start dialogId) rfl rfl le_rfl
        refine ⟨moves, quiet.imp_right ?_⟩
        rintro ⟨other, found', connected⟩
        obtain rfl : dialog = other := Option.some.inj (found.symm.trans found')
        exact ⟨dialog, rfl, active, connected⟩
    · rw [if_neg active]
      obtain ⟨moves, -, quiet⟩ := abortDialog_does cause (.inl (ready_start dialogId)) le_rfl
      exact ⟨moves, .inl quiet⟩

theorem removeDialog_does {dialogId : Str} (cause : input = .removeDialog dialogId) :
    Eff.Does (Moves p env start input) (DialogActionHandler.removeDialog p env dialogId) start
      fun _ _ => True := by
  unfold DialogActionHandler.removeDialog
  refine Eff.Does.bind (closeDialog_does (cause ▸ .remove dialogId) (.remove dialogId cause))
    (fun _ s' _ quiet => ?_) (fun _ _ _ _ => trivial)
  cases found : s'.mDialogStorage.find dialogId with
  | none =>
    rw [Eff.Does, Eff.bind_error (wrapper_of_none p found)]
    exact ⟨.refl, trivial⟩
  | some dialog =>
    rw [Eff.Does, Eff.bind_ok (wrapper_of_some p found)]
    refine ⟨.single ?_, trivial⟩
    rw [Eff.update_apply, Core.view_removeDialog, DialogStorage.mDialogId_of_find found]
    refine .remove cause found (quiet.imp_left fun same => ?_)
    funext k
    simp only [Core.view, same]

theorem createDialog_does {contact : Contact} (cause : input = .createDialog contact) :
    Eff.Does (Moves p env start input) (DialogActionHandler.createDialog p env contact) start
      fun _ _ => True := by
  unfold DialogActionHandler.createDialog
  simp only
  generalize shape : (Dialog.ofContact env.initSequental env.makeUiid contact.id : Dialog w) =
    dialog
  have named : dialog.mDialogId = env.makeUiid := by rw [← shape]; rfl
  cases taken : start.mDialogStorage.has dialog.mDialogId with
  | true =>
    rw [Eff.Does, Eff.bind_error (addDialog_of_has p taken)]
    exact ⟨.refl, trivial⟩
  | false =>
    have unknown : start.view.dialogs dialog.mDialogId = none := has_eq_false.mp taken
    rw [Eff.Does, Eff.bind_ok (addDialog_of_new p taken)]
    have found : (start.addDialog dialog).mDialogStorage.find dialog.mDialogId = some dialog :=
      DialogStorage.find_put_self dialog
    rw [Eff.bind_ok (wrapper_of_some p found)]
    have opened : Moves p env start input start (start.addDialog dialog) := by
      refine .single ?_
      rw [Core.view_addDialog]
      exact .create cause ⟨rfl, rfl, rfl, [], by simp, by simp⟩ unknown shape.symm
    have ready : Ready start (start.addDialog dialog).view dialog.mDialogId := by
      intro other same
      have : other = dialog := by simpa [found, eq_comm] using same
      subst this
      refine ⟨?_, .inr ?_⟩
      · rw [Core.view_addDialog]
        rfl
      · rw [Core.view_addDialog]
        simp [handedStep]
    have asks : Asks env input dialog.mDialogId .createDialog .waitConfirm false := by
      rw [cause, named]
      exact .create contact
    have grown : start.log.length ≤ (start.addDialog dialog).log.length := by
      rw [Core.addDialog]
      simp
    exact ⟨opened.trans (sendRequest_does asks _ _ _ ready rfl rfl grown).1, trivial⟩

end

end SecureDialogues
