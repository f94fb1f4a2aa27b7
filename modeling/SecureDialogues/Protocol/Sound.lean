import SecureDialogues.Protocol.StepMoves

/-!
# What holds in every reachable state

The statuses that a stored dialog really takes, what a pending delivery can ask for, and where the
session ciphers come from. No condition on the run is needed for these.
-/

namespace SecureDialogues

open Text Effect

section

variable {w : Nat} {p : Platform w} {env : Env w} {start : Core w} {input : Input w}

/-- What a delivery callback can ask for: the status and whether the expiry sends an ABORT. -/
def IsRequested (mNext : Status) (mAbortNeed : Bool) : Prop :=
  mNext = .waitConfirm ∧ mAbortNeed = false ∨ mNext = .closed ∧ mAbortNeed = false ∨
    mNext = .waitKeyVerificaion ∧ mAbortNeed = true

structure Sound (v : View w) : Prop where
  keyed : ∀ dialogId dialog, v.dialogs dialogId = some dialog → dialog.mDialogId = dialogId
  /-- Nothing leads to the statuses ACCEPTED_WAIT and WAIT_KEY_VERIFICAION. -/
  reached : ∀ dialogId dialog, v.dialogs dialogId = some dialog →
    dialog.mStatus ≠ .acceptedWait ∧ dialog.mStatus ≠ .waitKeyVerificaion
  requested : ∀ k dialogId mNext mAbortNeed mAddress mChannel,
    v.pending k = some (.dialogAction dialogId mNext mAbortNeed mAddress mChannel) →
      IsRequested mNext mAbortNeed
  installed : ∀ dialogId element, v.ciphers dialogId = some element →
    .keyInstalled dialogId ∈ sinceStart v.log

theorem sinceStart_append {log events : List (Event w)}
    (running : ∀ event ∈ events, event ≠ .restarted) :
    sinceStart (log ++ events) = sinceStart log ++ events := by
  induction events using List.reverseRecOn with
  | nil => simp
  | append_singleton events event ih =>
    have unlike : event ≠ .restarted := running event (by simp)
    rw [← List.append_assoc, sinceStart_concat, if_neg unlike,
      ih fun e member => running e (by simp [member]), List.append_assoc]

namespace Sound

variable {v : View w} (sound : Sound v)
include sound

theorem record {events : List (Event w)} (running : ∀ event ∈ events, event ≠ .restarted) :
    Sound (v.record events) where
  keyed := sound.keyed
  reached := sound.reached
  requested := sound.requested
  installed dialogId element found := by
    rw [View.record_log, sinceStart_append running]
    exact List.mem_append_left _ (sound.installed dialogId element found)

theorem setDialog {dialog : Dialog w}
    (reached : dialog.mStatus ≠ .acceptedWait ∧ dialog.mStatus ≠ .waitKeyVerificaion) :
    Sound (v.setDialog dialog) where
  keyed dialogId other found := by
    rw [View.setDialog_dialogs] at found
    split at found
    · cases found
      assumption
    · exact sound.keyed dialogId other found
  reached dialogId other found := by
    rw [View.setDialog_dialogs] at found
    split at found
    · cases found
      exact reached
    · exact sound.reached dialogId other found
  requested := sound.requested
  installed := sound.installed

/-- A stored dialog is changed, but not its status. -/
theorem updateDialog {dialogId : Str} {before dialog : Dialog w}
    (stored : v.dialogs dialogId = some before) (status : dialog.mStatus = before.mStatus) :
    Sound (v.setDialog dialog) :=
  sound.setDialog (status ▸ sound.reached dialogId before stored)

theorem store {k : NumberedKey w} {handler : DeliveryHandler}
    (requested : ∀ dialogId mNext mAbortNeed mAddress mChannel,
      handler = .dialogAction dialogId mNext mAbortNeed mAddress mChannel →
        IsRequested mNext mAbortNeed) : Sound (v.store k handler) where
  keyed := sound.keyed
  reached := sound.reached
  requested other dialogId mNext mAbortNeed mAddress mChannel found := by
    rw [View.store_pending] at found
    split at found
    · exact requested _ _ _ _ _ (Option.some.inj found)
    · exact sound.requested _ _ _ _ _ _ found
  installed := sound.installed

theorem drop (k : NumberedKey w) : Sound (v.drop k) where
  keyed := sound.keyed
  reached := sound.reached
  requested other dialogId mNext mAbortNeed mAddress mChannel found := by
    rw [View.drop_pending] at found
    split at found
    · cases found
    · exact sound.requested _ _ _ _ _ _ found
  installed := sound.installed

theorem install (dialogId : Str) (element : DialogElement) :
    Sound ((v.install dialogId element).record [.keyInstalled dialogId]) where
  keyed := sound.keyed
  reached := sound.reached
  requested := sound.requested
  installed other stored found := by
    rw [View.record_log, sinceStart_append (by simp)]
    rw [View.record_ciphers, View.install_ciphers] at found
    split at found
    · rename_i same
      simp [same]
    · exact List.mem_append_left _ (sound.installed other stored found)

theorem forget (dialogId : Str) : Sound (v.forget dialogId) where
  keyed other dialog found := by
    rw [View.forget_dialogs] at found
    split at found
    · cases found
    · exact sound.keyed other dialog found
  reached other dialog found := by
    rw [View.forget_dialogs] at found
    split at found
    · cases found
    · exact sound.reached other dialog found
  requested := sound.requested
  installed other element found := by
    rw [View.forget_ciphers] at found
    split at found
    · cases found
    · exact sound.installed other element found

omit sound in
theorem restart {s : Core w} (sound : Sound s.view) : Sound s.restart.view where
  keyed := sound.keyed
  reached := sound.reached
  requested _ _ _ _ _ _ found := by
    rw [show s.restart.view.pending _ = none by simp [Core.restart, Core.view]] at found
    cases found
  installed _ _ found := by
    rw [show s.restart.view.ciphers _ = none by simp [Core.restart, Core.view]] at found
    cases found

end Sound

/-- A request asks for a status only where the dialog's status lets it be made. -/
theorem Asks.isRequested {dialogId : Str} {action : Action} {mNext : Status} {mAbortNeed : Bool}
    (asks : Asks env input dialogId action mNext mAbortNeed) {status : Status}
    (allowed : isMessageActionAllowed status action = true)
    (reached : status ≠ .waitKeyVerificaion) : IsRequested mNext mAbortNeed := by
  cases asks with
  | create => exact .inl ⟨rfl, rfl⟩
  | close => exact .inr (.inl ⟨rfl, rfl⟩)
  | remove => exact .inr (.inl ⟨rfl, rfl⟩)
  | keyVerification => exact .inl ⟨rfl, rfl⟩
  | accept => exact absurd (isMessageActionAllowed_acceptDialog.mp allowed) reached

/-- The peer can only make a dialog ACTIVE, CLOSED or ABORTED. -/
theorem map_reached {action : Action} {status : Status}
    (mapped : DialogActionHandler.map p action = some status) :
    status = .active ∧ action = .acceptDialog ∨ status = .closed ∨ status = .aborted := by
  cases action <;> simp_all [DialogActionHandler.map]

/-- Every move keeps it. -/
theorem Sound.move {v v' : View w} (sound : Sound v) (move : Move p env start input v v') :
    Sound v' := by
  cases move with
  | @note event note =>
    apply sound.record
    intro e member
    rw [List.mem_singleton] at member
    rintro rfl
    subst member
    cases note
  | strayAbort => exact sound.record (by simp)
  | takeControl _ _ _ _ stored =>
    refine Sound.record ?_ (by simp)
    exact sound.updateDialog stored rfl
  | addText => exact sound.record (by simp)
  | create _ _ _ shape =>
    refine Sound.record ?_ (by simp)
    exact sound.setDialog (by simp [shape, Dialog.ofContact, Dialog.ofPeer])
  | createByPeer _ _ _ _ _ _ shape =>
    refine Sound.record ?_ (by simp)
    exact sound.setDialog (by simp [shape, Dialog.ofPeer])
  | install element => exact sound.install _ element
  | request asks _ stored allowed =>
    have requested := asks.isRequested allowed (sound.reached _ _ stored).2
    refine Sound.updateDialog ?_ stored rfl
    refine Sound.record (sound.store ?_) (by simp)
    rintro _ _ _ _ _ ⟨⟩
    exact requested
  | requestFailed asks _ stored allowed =>
    have requested := asks.isRequested allowed (sound.reached _ _ stored).2
    refine Sound.record (sound.store ?_) (by simp)
    rintro _ _ _ _ _ ⟨⟩
    exact requested
  | verifyKey =>
    refine Sound.record (sound.store ?_) (by simp)
    rintro _ _ _ _ _ ⟨⟩
    exact .inr (.inr ⟨rfl, rfl⟩)
  | skip _ stored => exact sound.updateDialog stored rfl
  | sendText _ _ stored =>
    refine Sound.record ?_ (by simp)
    refine Sound.store (sound.updateDialog stored ?_) ?_
    · rfl
    · rintro _ _ _ _ _ ⟨⟩
  | abort _ _ _ _ handed =>
    refine (sound.record fun event member => ?_).setDialog (by simp)
    obtain ⟨_, _, rfl, -⟩ := handed event member
    simp
  | abortFailed => exact sound.record (by simp)
  | peerStatus _ _ _ _ mapped =>
    rcases map_reached mapped with ⟨rfl, -⟩ | rfl | rfl <;> exact sound.setDialog (by simp)
  | removed _ _ _ waiting stored allowed =>
    refine (sound.setDialog ?_).drop _
    rcases sound.requested _ _ _ _ _ _ waiting with ⟨rfl, -⟩ | ⟨rfl, -⟩ | ⟨rfl, -⟩
    · simp
    · simp
    · have accepted := isStateTransitionAllowed_waitKeyVerificaion.mp allowed
      exact absurd accepted (sound.reached _ _ stored).1
  | endText => exact sound.drop _
  | timeouted _ _ _ _ _ _ handed =>
    refine ((sound.record fun event member => ?_).setDialog (by simp)).drop _
    rintro rfl
    rcases handed _ member with note | ⟨-, _, _, shape, -⟩
    · cases note
    · cases shape
  | timeoutFailed _ _ _ handed =>
    apply sound.record
    intro event member
    rintro rfl
    rcases handed _ member with note | ⟨-, _, _, _, shape, -⟩
    · cases note
    · cases shape
  | remove => exact (sound.forget _).record (by simp)

theorem sound_initial : Sound (Core.initial : Core w).view where
  keyed _ _ found := by simp [Core.initial] at found
  reached _ _ found := by simp [Core.initial] at found
  requested _ _ _ _ _ _ found := by simp [Core.initial, Core.view] at found
  installed _ _ found := by simp [Core.initial] at found

end

end SecureDialogues
