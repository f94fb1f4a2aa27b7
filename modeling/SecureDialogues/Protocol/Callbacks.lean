import SecureDialogues.Protocol.Sound

/-!
# Delivery callbacks

A callback that is captured when a control message is sent runs when the ACK comes or the time is
over. It succeeds as long as nothing else changed the status of the dialog in between; the callback
of a VERIFY_KEY asks for a transition that its dialog never has.
-/

namespace SecureDialogues

open Text Effect

section

variable {w : Nat}

/-- A control message of the dialog is waiting for its ACK under the key. -/
def Waiting (v : View w) (dialogId : Str) (k : NumberedKey w) (mNext : Status)
    (mAbortNeed : Bool) : Prop :=
  ∃ mAddress mChannel,
    v.pending k = some (.dialogAction dialogId mNext mAbortNeed mAddress mChannel)

/-- No control message of the dialog is waiting. -/
def Idle (v : View w) (dialogId : Str) : Prop :=
  ∀ k mNext mAbortNeed, ¬ Waiting v dialogId k mNext mAbortNeed

/-- No control message of the dialog is waiting under another key. -/
def OnlyWaiting (v : View w) (dialogId : Str) (k : NumberedKey w) : Prop :=
  ∀ other mNext mAbortNeed, Waiting v dialogId other mNext mAbortNeed → other = k

variable (p : Platform w)

/-- The callback that the step runs finds its dialog and its transition, and the program goes on. -/
def CallbackSucceeds (s : Core w) (step : Step w) : Prop :=
  match step.2 with
  | .dispatch message _ => message.mAction = .ack → ∀ dialogId mNext mAbortNeed,
      Waiting s.view dialogId (message.mDialogId, message.mSequentialNumber) mNext mAbortNeed →
        (∃ dialog, s.mDialogStorage.find dialogId = some dialog ∧
          isStateTransitionAllowed dialog.mStatus mNext = true) ∧ (next p s step).alive = true
  | .expire k => ∀ dialogId mNext mAbortNeed mAddress mChannel,
      s.mRepo.overdue step.1.systemClock k =
          some (.dialogAction dialogId mNext mAbortNeed mAddress mChannel) →
        (∃ dialog, s.mDialogStorage.find dialogId = some dialog ∧
          isStateTransitionAllowed dialog.mStatus .aborted = true) ∧ (next p s step).alive = true
  | _ => True

/-- What an incoming message must not do while a control message of its dialog is waiting. -/
structure Harmless (env : Env w) (s : Core w) (message : DialogMessage w) (channel : Str) :
    Prop where
  /-- It does not acknowledge a VERIFY_KEY, nor one of two waiting messages of which the first
  ends the dialog. -/
  ack : message.mAction = .ack → ∀ dialogId mNext mAbortNeed,
    Waiting s.view dialogId (message.mDialogId, message.mSequentialNumber) mNext mAbortNeed →
      mNext ≠ .waitKeyVerificaion ∧ (mNext = .waitConfirm ∨
        OnlyWaiting s.view dialogId (message.mDialogId, message.mSequentialNumber))
  /-- It is no text that cannot be read. -/
  text : message.mAction = .message → Delivered p env s message channel → IsFresh s message →
    (∀ text, decryptMessageBody p s.mCiphers message.mDialogId message.mContent ≠ .ok text) →
      Idle s.view message.mDialogId
  /-- It is no control message, unless it is a VERIFY_KEY that is answered. -/
  control : DialogActionHandler.isItYouAction message.mAction = true →
    Delivered p env s message channel → IsFresh s message →
      Idle s.view message.mDialogId ∧
        (message.mAction = .verifyKey ∨ message.mAction = .keyVerification →
          ¬ SendFails s (exec p env (.dispatch message channel) s).log) ∨
      message.mAction = .verifyKey ∧ IsAnswered p env s message ∧
        ¬ SendFails s (exec p env (.dispatch message channel) s).log
  /-- The transmission of the VERIFY_KEY that answers it does not fail. -/
  answer : IsAnsweredWithKey p env s message channel →
    ¬ SendFails s (exec p env (.dispatch message channel) s).log

/-- A step that leaves the dialogs of waiting control messages alone. -/
def Undisturbed (s : Core w) (step : Step w) : Prop :=
  match step.2 with
  | .closeDialog dialogId => Idle s.view dialogId
  | .abortDialog dialogId => Idle s.view dialogId
  | .removeDialog dialogId => Idle s.view dialogId ∧ ∀ dialog,
      s.mDialogStorage.find dialogId = some dialog → dialog.mStatus = .active → ¬ Connected s dialog
  | .expire k => ∀ dialogId mNext mAbortNeed mAddress mChannel,
      s.mRepo.overdue step.1.systemClock k =
          some (.dialogAction dialogId mNext mAbortNeed mAddress mChannel) →
        OnlyWaiting s.view dialogId k ∧
          (mAbortNeed = true → (∀ dialog, s.mDialogStorage.find dialogId = some dialog →
              ¬ IsUnsignedAbort step.1 s dialog mAddress) ∧ ¬ SendFails s (next p s step).log)
  | .dispatch message channel => Harmless p step.1 s message channel
  | _ => True

/-! ## The invariant -/

/-- The statuses of a dialog while a control message that asks for `mNext` is waiting. -/
def Fits : Status → Status → Prop
  | .new, .waitConfirm => True
  | .waitConfirm, .waitConfirm => True
  | .createRequest, .waitKeyVerificaion => True
  | .active, .closed => True
  | _, _ => False

theorem Fits.isEnded {status mNext : Status} (fits : Fits status mNext) :
    status.isEnded = false := by
  cases status <;> cases mNext <;> first | rfl | exact absurd fits id

/-- The callback succeeds, except that of a VERIFY_KEY. -/
theorem Fits.allowed {status mNext : Status} (fits : Fits status mNext)
    (other : mNext ≠ .waitKeyVerificaion) : isStateTransitionAllowed status mNext = true := by
  cases status <;> cases mNext <;> first | rfl | exact absurd fits id | exact absurd rfl other

theorem Fits.waitConfirm {status mNext : Status} (fits : Fits status mNext)
    (other : Fits status .waitConfirm) : mNext = .waitConfirm := by
  cases status <;> cases mNext <;> first | rfl | exact absurd fits id | exact absurd other id

variable {p} {env : Env w} {start : Core w} {input : Input w}

theorem Asks.fits {dialogId : Str} {action : Action} {mNext status : Status} {mAbortNeed : Bool}
    (asks : Asks env input dialogId action mNext mAbortNeed)
    (allowed : isMessageActionAllowed status action = true)
    (reached : status ≠ .waitKeyVerificaion) : Fits status mNext := by
  cases asks <;> cases status <;> trivial

/-- Every waiting control message fits the status of its dialog. -/
def Fitting (v : View w) : Prop :=
  ∀ dialogId k mNext mAbortNeed, Waiting v dialogId k mNext mAbortNeed →
    ∃ dialog, v.dialogs dialogId = some dialog ∧ Fits dialog.mStatus mNext

namespace Fitting

variable {v : View w} (fitting : Fitting v)
include fitting

/-- Only the dialogs and the deliveries matter. -/
theorem congr {v' : View w} (dialogs : v'.dialogs = v.dialogs) (pending : v'.pending = v.pending) :
    Fitting v' := by
  intro dialogId k mNext mAbortNeed waiting
  rw [Waiting, pending] at waiting
  rw [dialogs]
  exact fitting dialogId k mNext mAbortNeed waiting

theorem setDialog {dialog : Dialog w} (fits : ∀ k mNext mAbortNeed,
    Waiting v dialog.mDialogId k mNext mAbortNeed → Fits dialog.mStatus mNext) :
    Fitting (v.setDialog dialog) := by
  intro dialogId k mNext mAbortNeed waiting
  rw [View.setDialog_dialogs]
  by_cases same : dialog.mDialogId = dialogId
  · subst same
    rw [if_pos rfl]
    exact ⟨dialog, rfl, fits k mNext mAbortNeed waiting⟩
  · rw [if_neg same]
    exact fitting dialogId k mNext mAbortNeed waiting

/-- A stored dialog is changed, but not its status. -/
theorem updateDialog {dialog : Dialog w} (stored : ∃ before,
    v.dialogs dialog.mDialogId = some before ∧ dialog.mStatus = before.mStatus) :
    Fitting (v.setDialog dialog) := by
  obtain ⟨before, found, same⟩ := stored
  apply fitting.setDialog
  intro k mNext mAbortNeed waiting
  obtain ⟨other, found', fits⟩ := fitting _ k mNext mAbortNeed waiting
  obtain rfl : before = other := Option.some.inj (found.symm.trans found')
  exact same ▸ fits

/-- The dialog may take any status while none of its messages is waiting. -/
theorem setIdle {dialog : Dialog w} (idle : Idle v dialog.mDialogId) : Fitting (v.setDialog dialog) :=
  fitting.setDialog fun k mNext mAbortNeed waiting => absurd waiting (idle k mNext mAbortNeed)

/-- No message of a dialog that is not stored is waiting. -/
theorem idle_of_unknown {dialogId : Str} (unknown : v.dialogs dialogId = none) : Idle v dialogId := by
  intro k mNext mAbortNeed waiting
  obtain ⟨dialog, found, -⟩ := fitting dialogId k mNext mAbortNeed waiting
  rw [unknown] at found
  cases found

theorem store {k : NumberedKey w} {handler : DeliveryHandler}
    (fits : ∀ dialogId mNext mAbortNeed mAddress mChannel,
      handler = .dialogAction dialogId mNext mAbortNeed mAddress mChannel →
        ∃ dialog, v.dialogs dialogId = some dialog ∧ Fits dialog.mStatus mNext) :
    Fitting (v.store k handler) := by
  rintro dialogId other mNext mAbortNeed ⟨mAddress, mChannel, waiting⟩
  rw [View.store_pending] at waiting
  split at waiting
  · exact fits _ _ _ _ _ (Option.some.inj waiting)
  · exact fitting dialogId other mNext mAbortNeed ⟨mAddress, mChannel, waiting⟩

theorem drop (k : NumberedKey w) : Fitting (v.drop k) := by
  rintro dialogId other mNext mAbortNeed ⟨mAddress, mChannel, waiting⟩
  rw [View.drop_pending] at waiting
  split at waiting
  · cases waiting
  · exact fitting dialogId other mNext mAbortNeed ⟨mAddress, mChannel, waiting⟩

theorem forget {dialogId : Str} (idle : Idle v dialogId) : Fitting (v.forget dialogId) := by
  intro other k mNext mAbortNeed waiting
  rw [View.forget_dialogs]
  by_cases same : dialogId = other
  · subst same
    exact absurd waiting (idle k mNext mAbortNeed)
  · rw [if_neg same]
    exact fitting other k mNext mAbortNeed waiting

end Fitting

theorem Idle.congr {v v' : View w} {dialogId : Str} (idle : Idle v dialogId)
    (pending : v'.pending = v.pending) : Idle v' dialogId := by
  intro k mNext mAbortNeed waiting
  rw [Waiting, pending] at waiting
  exact idle k mNext mAbortNeed waiting

/-- Where the only waiting message of a dialog is dropped, the dialog is idle. -/
theorem OnlyWaiting.drop {v : View w} {dialogId : Str} {k : NumberedKey w}
    (only : OnlyWaiting v dialogId k) : Idle (v.drop k) dialogId := by
  rintro other mNext mAbortNeed ⟨mAddress, mChannel, waiting⟩
  rw [View.drop_pending] at waiting
  split at waiting
  · cases waiting
  · rename_i unlike
    exact unlike (only other mNext mAbortNeed ⟨mAddress, mChannel, waiting⟩).symm

/-- A step without disturbance sends no request in vain. -/
theorem SentInVain.disturbs {v : View w} (vain : SentInVain p env start input v)
    (later : ∃ events, (exec p env input start).log = v.log ++ events) :
    ¬ Undisturbed p start (env, input) := by
  intro undisturbed
  obtain ⟨events, log⟩ := later
  cases vain with
  | @answer message channel cause action delivered fresh fails =>
    simp only [Undisturbed, cause] at undisturbed
    have control : DialogActionHandler.isItYouAction message.mAction = true := by
      rcases action with action | action <;> rw [action] <;> rfl
    have fails : SendFails start (exec p env (.dispatch message channel) start).log := by
      rw [← cause, log]
      exact fails.append events
    rcases undisturbed.control control delivered fresh with ⟨-, sends⟩ | ⟨-, -, sends⟩
    · exact sends action fails
    · exact sends fails
  | create cause answered fails =>
    simp only [Undisturbed, cause] at undisturbed
    apply undisturbed.answer answered
    rw [← cause, log]
    exact fails.append events

/-- A dialog that a step without disturbance aborts is idle. -/
theorem AbortCause.idle {v : View w} {dialogId : Str}
    (cause : AbortCause p env start input v dialogId)
    (later : ∃ events, (exec p env input start).log = v.log ++ events)
    (undisturbed : Undisturbed p start (env, input)) (fitting : Fitting start.view) :
    Idle start.view dialogId := by
  cases cause with
  | abort dialogId cause | close dialogId cause =>
    simp only [Undisturbed, cause] at undisturbed
    exact undisturbed
  | remove dialogId cause =>
    simp only [Undisturbed, cause] at undisturbed
    exact undisturbed.1
  | text cause action delivered fresh unread =>
    simp only [Undisturbed, cause] at undisturbed
    exact undisturbed.text action delivered fresh unread
  | @control message channel cause control delivered fresh unanswered =>
    simp only [Undisturbed, cause] at undisturbed
    cases stored : start.mDialogStorage.has message.mDialogId with
    | false => exact fitting.idle_of_unknown (has_eq_false.mp stored)
    | true =>
      rcases undisturbed.control control delivered (fresh stored) with
        ⟨idle, -⟩ | ⟨action, answered, sends⟩
      · exact idle
      · refine absurd ?_ sends
        obtain ⟨events, log⟩ := later
        rw [← cause, log]
        exact ((unanswered action).resolve_left (not_not.mpr answered)).append events

/-- Every move of a step without disturbance keeps the invariant. -/
theorem Fitting.move {v v' : View w} (fitting : Fitting v) (sound : Sound v)
    (first : Fitting start.view) (undisturbed : Undisturbed p start (env, input))
    (later : ∃ events, (exec p env input start).log = v'.log ++ events)
    (move : Move p env start input v v') : Fitting v' := by
  cases move with
  | note | strayAbort | addText | install | abortFailed | timeoutFailed =>
    exact fitting.congr rfl rfl
  | takeControl _ _ _ _ stored =>
    rw [← sound.keyed _ _ stored] at stored
    refine Fitting.congr (v := v.setDialog _) ?_ rfl rfl
    exact fitting.updateDialog ⟨_, stored, rfl⟩
  | create _ _ unknown =>
    refine Fitting.congr (v := v.setDialog _) ?_ rfl rfl
    exact fitting.setIdle (fitting.idle_of_unknown unknown)
  | createByPeer _ _ _ _ unknown _ shape =>
    refine Fitting.congr (v := v.setDialog _) ?_ rfl rfl
    exact fitting.setIdle (fitting.idle_of_unknown (shape ▸ unknown))
  | request asks _ stored allowed =>
    have fits := asks.fits allowed (sound.reached _ _ stored).2
    refine Fitting.updateDialog (Fitting.congr (v := v.store _ _) (fitting.store ?_) rfl rfl) ?_
    · rintro _ _ _ _ _ ⟨⟩
      exact ⟨_, stored, fits⟩
    · exact ⟨_, stored, rfl⟩
  | requestFailed asks _ stored allowed =>
    have fits := asks.fits allowed (sound.reached _ _ stored).2
    refine Fitting.congr (v := v.store _ _) (fitting.store ?_) rfl rfl
    rintro _ _ _ _ _ ⟨⟩
    exact ⟨_, stored, fits⟩
  | verifyKey _ _ _ _ stored status =>
    refine Fitting.congr (v := v.store _ _) (fitting.store ?_) rfl rfl
    rintro _ _ _ _ _ ⟨⟩
    refine ⟨_, stored, ?_⟩
    rw [status]
    trivial
  | skip _ stored => exact fitting.updateDialog ⟨_, stored, rfl⟩
  | @sendText dialog _ _ _ _ _ _ stored =>
    have updated : Fitting (v.setDialog dialog.makeNextSequental) :=
      fitting.updateDialog ⟨_, stored, rfl⟩
    refine Fitting.congr (v := (v.setDialog dialog.makeNextSequental).store _ _)
      (updated.store ?_) rfl rfl
    rintro _ _ _ _ _ ⟨⟩
  | @abort dialog events cause unsent =>
    have later : ∃ rest, (exec p env input start).log = v.log ++ rest := by
      obtain ⟨rest, log⟩ := later
      exact ⟨events ++ rest, log.trans (List.append_assoc ..)⟩
    have idle := cause.idle later undisturbed first
    have unsent := unsent.resolve_right fun vain => vain.disturbs later undisturbed
    apply Fitting.setIdle (v := v.record events) (fitting.congr rfl rfl)
    exact idle.congr unsent.pending
  | peerStatus cause control delivered other _ dialogId found fresh _ _ _ unsent =>
    simp only [Undisturbed, cause] at undisturbed
    rw [← dialogId] at found
    apply fitting.setIdle
    rcases undisturbed.control control delivered ⟨_, found, fresh⟩ with ⟨idle, -⟩ | ⟨action, -⟩
    · rw [Dialog.withStatus_mDialogId, ← dialogId]
      exact idle.congr unsent.pending
    · exact absurd action other.1
  | @removed message _ mAddress mChannel dialog mNext mAbortNeed cause action firstView waiting stored
      allowed =>
    subst firstView
    simp only [Undisturbed, cause] at undisturbed
    show Fitting ((start.view.drop _).setDialog _)
    obtain ⟨possible, alone⟩ :=
      undisturbed.ack action dialog.mDialogId mNext mAbortNeed ⟨mAddress, mChannel, waiting⟩
    obtain ⟨other, found, fits⟩ := fitting _ _ _ _ ⟨mAddress, mChannel, waiting⟩
    obtain rfl : dialog = other := Option.some.inj (stored.symm.trans found)
    rcases alone with rfl | only
    · -- A request that leads to WAIT_CONFIRM leaves other such requests waiting.
      apply (fitting.drop _).setDialog
      intro k mNext mAbortNeed another
      obtain ⟨other, found', fits'⟩ := fitting.drop _ _ k mNext mAbortNeed another
      obtain rfl : dialog = other := Option.some.inj (stored.symm.trans found')
      rw [fits'.waitConfirm fits]
      trivial
    · exact (fitting.drop _).setIdle only.drop
  | endText => exact fitting.drop _
  | @timeouted k mAddress mChannel dialog mNext mAbortNeed events cause firstView _ late =>
    subst firstView
    simp only [Undisturbed, cause] at undisturbed
    obtain ⟨only, -⟩ := undisturbed _ _ _ _ _ late
    show Fitting (((start.view.record events).drop k).setDialog _)
    apply Fitting.setIdle (Fitting.drop (fitting.congr rfl rfl) k)
    have idle : Idle ((start.view.record events).drop k) dialog.mDialogId := only.drop.congr rfl
    cases mAbortNeed <;> exact idle
  | remove cause _ quiet =>
    simp only [Undisturbed, cause] at undisturbed
    refine Fitting.congr (v := v.forget _) (fitting.forget ?_) rfl rfl
    rcases quiet with same | ⟨before, found, active, connected⟩
    · exact undisturbed.1.congr same
    · exact absurd connected (undisturbed.2 before found active)

/-! ## The callbacks -/

theorem Waiting.stored {s : Core w} {dialogId : Str} {k : NumberedKey w} {mNext : Status}
    {mAbortNeed : Bool} (waiting : Waiting s.view dialogId k mNext mAbortNeed) :
    ∃ mAddress mChannel validTo, s.mRepo[k]? = some ⟨.dialogAction dialogId mNext mAbortNeed
      mAddress mChannel, validTo⟩ := by
  obtain ⟨mAddress, mChannel, waiting⟩ := waiting
  obtain ⟨⟨element, validTo⟩, found, shape⟩ := Option.map_eq_some_iff.mp waiting
  subst shape
  exact ⟨mAddress, mChannel, validTo, found⟩

/-- The ACK of a control message whose callback succeeds ends as the callback does. -/
theorem ack_alive {s : Core w} {message : DialogMessage w} {channel : Str} {dialog : Dialog w}
    {mNext : Status} {mAbortNeed : Bool} (alive : s.alive = true) (action : message.mAction = .ack)
    (waiting : Waiting s.view dialog.mDialogId (message.mDialogId, message.mSequentialNumber) mNext
      mAbortNeed) (found : s.mDialogStorage.find dialog.mDialogId = some dialog)
    (allowed : isStateTransitionAllowed dialog.mStatus mNext = true) :
    (exec p env (.dispatch message channel) s).alive = true := by
  obtain ⟨mAddress, mChannel, validTo, stored⟩ := waiting.stored
  have callback : removed p (.dialogAction dialog.mDialogId mNext mAbortNeed mAddress mChannel) s =
      (.ok (), s.saveDialog p (dialog.withStatus mNext)) := by
    rw [removed, Eff.bind_ok (wrapper_of_some p found),
      Eff.bind_ok (setStatus_of_allowed p allowed s)]
    rfl
  have outcome : dispatch p env message channel s =
      (.ok (), { s.saveDialog p (dialog.withStatus mNext) with
        mRepo := s.mRepo.erase (message.mDialogId, message.mSequentialNumber) }) := by
    rw [dispatch, Eff.noexcept, if_pos action, removeEntry, Eff.bind_assoc, Eff.reads_bind, stored]
    simp only
    rw [Eff.bind_assoc, Eff.bind_ok callback]
    rfl
  rw [exec, if_pos (.inl alive), perform, outcome]
  exact alive

/-- So does the expiry of one. -/
theorem expire_alive {s : Core w} {k : NumberedKey w} {dialog : Dialog w} {mNext : Status}
    {mAbortNeed : Bool} {mAddress mChannel : Str} (alive : s.alive = true)
    (late : s.mRepo.overdue env.systemClock k =
      some (.dialogAction dialog.mDialogId mNext mAbortNeed mAddress mChannel))
    (found : s.mDialogStorage.find dialog.mDialogId = some dialog)
    (open' : dialog.mStatus.isEnded = false)
    (sends : mAbortNeed = true →
      ¬ IsUnsignedAbort env s dialog mAddress ∧ ¬ SendFails s (exec p env (.expire k) s).log) :
    (exec p env (.expire k) s).alive = true := by
  obtain ⟨events, ⟨-, -, callback⟩ | ⟨-, wrong, e, callback⟩⟩ :=
    timeouted_cases (p := p) mNext mAbortNeed mAddress mChannel found
  · have outcome : expireEntry p env k s = (.ok (), { ({ s with log := s.log ++ events } :
        Core w).saveDialog p ((if mAbortNeed then dialog.makeNextSequental else dialog).withStatus
          .aborted) with mRepo := s.mRepo.erase k }) := by
      rw [expireEntry, Eff.noexcept, Eff.reads_bind, late]
      simp only
      rw [Eff.bind_ok callback]
      rfl
    rw [exec, if_pos (.inl alive), perform, outcome]
    exact alive
  · rcases wrong with ended | ⟨need, unsigned | fails⟩
    · exact absurd (open'.symm.trans ended) (by simp)
    · exact absurd unsigned (sends need).1
    · refine absurd ?_ (sends need).2
      have outcome : expireEntry p env k s =
          (.error .terminated, { s with log := s.log ++ events }) := by
        rw [expireEntry, Eff.noexcept, Eff.reads_bind, late]
        simp only
        rw [Eff.bind_error callback]
      rw [exec, if_pos (.inl alive), perform, outcome]
      exact fails

theorem callbackSucceeds_of_fitting {s : Core w} {step : Step w} (alive : s.alive = true)
    (fitting : Fitting s.view) (undisturbed : Undisturbed p s step) : CallbackSucceeds p s step := by
  obtain ⟨env, input⟩ := step
  cases input with
  | dispatch message channel =>
    intro action dialogId mNext mAbortNeed waiting
    obtain ⟨dialog, found, fits⟩ := fitting dialogId _ mNext mAbortNeed waiting
    obtain rfl := DialogStorage.mDialogId_of_find found
    have allowed := fits.allowed (undisturbed.ack action _ _ _ waiting).1
    exact ⟨⟨dialog, found, allowed⟩, ack_alive alive action waiting found allowed⟩
  | expire k =>
    intro dialogId mNext mAbortNeed mAddress mChannel late
    obtain ⟨stored, lookup, shape⟩ := TimeoutedRepository.overdue_eq_some _ late
    have waiting : Waiting s.view dialogId k mNext mAbortNeed :=
      ⟨mAddress, mChannel, shape ▸ view_pending_of_stored lookup⟩
    obtain ⟨dialog, found, fits⟩ := fitting dialogId k mNext mAbortNeed waiting
    obtain rfl := DialogStorage.mDialogId_of_find found
    have allowed : isStateTransitionAllowed dialog.mStatus .aborted = true := by
      rw [isStateTransitionAllowed_aborted, fits.isEnded]
      rfl
    refine ⟨⟨dialog, found, allowed⟩, expire_alive alive late found fits.isEnded fun need => ?_⟩
    obtain ⟨signs, sends⟩ := (undisturbed _ _ _ _ _ late).2 need
    exact ⟨signs dialog found, sends⟩
  | _ => trivial

theorem Fitting.restart {s : Core w} : Fitting s.restart.view := by
  rintro dialogId k mNext mAbortNeed ⟨mAddress, mChannel, waiting⟩
  rw [show s.restart.view.pending k = none by simp [Core.restart, Core.view]] at waiting
  cases waiting

theorem fitting_exec {s : Core w} (inv : Sound s.view ∧ Fitting s.view)
    (undisturbed : s.alive = true → Undisturbed p s (env, input)) :
    Sound (exec p env input s).view ∧ Fitting (exec p env input s).view :=
  exec_invariant_within (I := fun v => Sound v ∧ Fitting v)
    (fun _ inv => ⟨inv.1.restart, Fitting.restart⟩)
    (fun alive _ _ _ later move steps =>
      ⟨steps.1.move move, steps.2.move steps.1 inv.2 (undisturbed alive) later move⟩) inv

/-- In a run whose steps leave the dialogs of waiting control messages alone, every callback
succeeds. -/
theorem callbacks_succeed (p : Platform w) {steps : List (Step w)}
    (undisturbed : Run.Along (next p) (fun s step => s.alive = true → Undisturbed p s step)
      Core.initial steps) :
    Run.Along (next p) (fun s step => s.alive = true → CallbackSucceeds p s step)
      Core.initial steps := by
  refine Run.along_of_invariant (I := fun s => Sound s.view ∧ Fitting s.view)
    (fun s step inv undisturbed => fitting_exec inv undisturbed)
    (fun s step inv undisturbed alive => callbackSucceeds_of_fitting alive inv.2 (undisturbed alive))
    ⟨sound_initial, ?_⟩ undisturbed
  rintro dialogId k mNext mAbortNeed ⟨mAddress, mChannel, waiting⟩
  simp [Core.initial, Core.view] at waiting

end

/-! ## Runs of the sample -/

theorem Waiting.mem_toList {w : Nat} {s : Core w} {dialogId : Str} {k : NumberedKey w}
    {mNext : Status} {mAbortNeed : Bool} (waiting : Waiting s.view dialogId k mNext mAbortNeed) :
    ∃ mAddress mChannel validTo, (k, ⟨.dialogAction dialogId mNext mAbortNeed mAddress mChannel,
      validTo⟩) ∈ s.mRepo.toList := by
  obtain ⟨mAddress, mChannel, validTo, stored⟩ := waiting.stored
  exact ⟨mAddress, mChannel, validTo, Std.ExtTreeMap.mem_toList_iff_getElem?_eq_some.mpr stored⟩

theorem sample_idle {s : Core 64} (none : s.mRepo.toList = []) (dialogId : Str) :
    Idle s.view dialogId := by
  intro k mNext mAbortNeed waiting
  obtain ⟨mAddress, mChannel, validTo, member⟩ := waiting.mem_toList
  rw [none] at member
  cases member

theorem sample_received {s : Core 64} (none : s.mRepo.toList = []) {action : Action}
    {number : BitVec 64} {content : Str} (other : action ≠ .ack)
    (sends : ¬ SendFails s (next Sample.platform s (Sample.receive action number content)).log) :
    Undisturbed Sample.platform s (Sample.receive action number content) where
  ack isAck := absurd isAck other
  text _ _ _ _ := sample_idle none _
  control _ _ _ := .inl ⟨sample_idle none _, fun _ => sends⟩
  answer _ := sends

/-- The delivery asks for a transition that a dialog can have. -/
def isPossible : DeliveryHandler → Bool
  | .dialogAction _ mNext _ _ _ => mNext ≠ .waitKeyVerificaion
  | .messageNotDeliveried _ _ => true

theorem sample_acknowledged {s : Core 64} (single : s.mRepo.toList.length ≤ 1)
    (possible : s.mRepo.toList.all (fun entry => isPossible entry.2.element) = true)
    (number : BitVec 64) (content : Str) :
    Undisturbed Sample.platform s (Sample.receive .ack number content) where
  ack _ _ _ _ waiting := by
    obtain ⟨_, _, _, member⟩ := waiting.mem_toList
    refine ⟨of_decide_eq_true (List.all_eq_true.mp possible _ member), .inr fun other _ _ another => ?_⟩
    obtain ⟨_, _, _, member'⟩ := another.mem_toList
    rcases entries : s.mRepo.toList with _ | ⟨entry, _ | ⟨_, _⟩⟩
    · rw [entries] at member
      cases member
    · rw [entries, List.mem_singleton] at member member'
      exact congrArg Prod.fst (member'.trans member.symm)
    · simp [entries] at single
  text isText := by cases isText
  control isControl := by cases isControl
  answer answered := by cases answered.action

/-- The one that asks establishes and closes a dialog; each ACK comes before the next message. -/
theorem established_callbacks_succeed :
    Run.Along (next Sample.platform)
      (fun s step => s.alive = true → CallbackSucceeds Sample.platform s step) Core.initial
      (Sample.established ++ [(Sample.env, .closeDialog (str "dialog")),
        Sample.receive .ack 8 []]) := by
  apply callbacks_succeed Sample.platform
  refine ⟨fun _ => trivial, fun _ => trivial, fun _ => trivial, fun _ => sample_acknowledged ?_ ?_ 6 [],
    fun _ => sample_received ?_ (by decide) ?_, fun _ => sample_acknowledged ?_ ?_ 7 [],
    fun _ => sample_received ?_ (by decide) ?_, fun _ => sample_idle ?_ _,
    fun _ => sample_acknowledged ?_ ?_ 8 [], trivial⟩
  all_goals decide +kernel

/-- The ACK of a VERIFY_KEY terminates the program, and so does that of the CLOSE_DIALOG that
`removeDialog` sent. -/
theorem callback_fails :
    ¬ Run.Along (next Sample.platform)
        (fun s step => s.alive = true → CallbackSucceeds Sample.platform s step) Core.initial
        (Sample.connect ++ [Sample.receive .createDialog 1 [], Sample.receive .ack 6 []]) ∧
      ¬ Run.Along (next Sample.platform)
        (fun s step => s.alive = true → CallbackSucceeds Sample.platform s step) Core.initial
        (Sample.established ++ [(Sample.env, .removeDialog (str "dialog")),
          Sample.receive .ack 8 []]) := by
  constructor
  · rintro ⟨-, -, -, succeeds, -⟩
    have outcome := succeeds (by decide +kernel) rfl (str "dialog") .waitKeyVerificaion true
      ⟨Sample.peer.adress, Sample.channel, by decide +kernel⟩
    exact absurd outcome.2 (by decide +kernel)
  · rintro ⟨-, -, -, -, -, -, -, -, succeeds, -⟩
    have outcome := succeeds (by decide +kernel) rfl (str "dialog") .closed false
      ⟨Sample.peer.adress, Sample.channel, by decide +kernel⟩
    exact absurd outcome.2 (by decide +kernel)

end SecureDialogues
