import SecureDialogues.Protocol.Sound

/-!
# ACTIVE and the session key

A dialog becomes ACTIVE through the peer's ACCEPT_DIALOG only, which is obeyed in the status
WAIT_CONFIRM, before and after the key was imported. The ciphers are not stored on disk, the
dialogs are.
-/

namespace SecureDialogues

open Text Effect

section

variable {w : Nat} (p : Platform w)

/-- Every stored dialog that is ACTIVE has a cipher that was installed since the program was
started. -/
def ActiveHasKey (s : Core w) : Prop :=
  ∀ dialogId dialog, s.mDialogStorage.find dialogId = some dialog → dialog.mStatus = .active →
    dialogId ∈ s.mCiphers ∧ .keyInstalled dialogId ∈ sinceStart s.log

/-- The program is not started again while a dialog is ACTIVE, and no ACCEPT_DIALOG is obeyed
before there is a key. -/
def KeepsKeys (s : Core w) (step : Step w) : Prop :=
  match step.2 with
  | .restart => ∀ dialogId dialog, s.mDialogStorage.find dialogId = some dialog →
      dialog.mStatus ≠ .active
  | .dispatch message channel => s.alive = true → message.mAction = .acceptDialog →
      Delivered p step.1 s message channel →
        ∀ dialog, s.mDialogStorage.find message.mDialogId = some dialog →
          dialog.mPeerSequental < message.mSequentialNumber → dialog.mStatus = .waitConfirm →
            (∃ contact, s.mContactStorage[dialog.mContactId]? = some contact) →
              message.mDialogId ∈ s.mCiphers
  | _ => True

/-- The part of the invariant about ciphers. -/
def Keyed (v : View w) : Prop :=
  ∀ dialogId dialog, v.dialogs dialogId = some dialog → dialog.mStatus = .active →
    ∃ element, v.ciphers dialogId = some element

variable {p} {v : View w}

theorem Keyed.setDialog (keyed : Keyed v) {dialog : Dialog w}
    (active : dialog.mStatus = .active → ∃ element, v.ciphers dialog.mDialogId = some element) :
    Keyed (v.setDialog dialog) := by
  intro dialogId other found isActive
  rw [View.setDialog_dialogs] at found
  split at found
  · rename_i same
    cases found
    exact same ▸ active isActive
  · exact keyed dialogId other found isActive

/-- A stored dialog is changed, but not its status. -/
theorem Keyed.updateDialog (keyed : Keyed v) {before dialog : Dialog w}
    (stored : v.dialogs dialog.mDialogId = some before) (status : dialog.mStatus = before.mStatus) :
    Keyed (v.setDialog dialog) :=
  keyed.setDialog fun active => keyed dialog.mDialogId before stored (status ▸ active)

theorem Keyed.install (keyed : Keyed v) (dialogId : Str) (element : DialogElement) :
    Keyed (v.install dialogId element) := by
  intro other dialog found active
  rw [View.install_ciphers]
  split
  · exact ⟨element, rfl⟩
  · exact keyed other dialog found active

theorem Keyed.forget (keyed : Keyed v) (dialogId : Str) : Keyed (v.forget dialogId) := by
  intro other dialog found active
  rw [View.forget_dialogs] at found
  split at found
  · cases found
  · rename_i unlike
    rw [View.forget_ciphers, if_neg unlike]
    exact keyed other dialog found active

variable {env : Env w} {start : Core w} {input : Input w}

theorem Keyed.restart (none : ∀ dialogId dialog,
    start.mDialogStorage.find dialogId = some dialog → dialog.mStatus ≠ .active) :
    Keyed start.restart.view :=
  fun dialogId dialog found active => absurd active (none dialogId dialog found)

/-- Every move of a step that keeps the keys keeps the invariant. -/
theorem Keyed.move {v' : View w} (keyed : Keyed v) (sound : Sound v)
    (keeps : KeepsKeys p start (env, input)) (alive : start.alive = true)
    (move : Move p env start input v v') : Keyed v' := by
  cases move with
  | note | strayAbort | addText | requestFailed | verifyKey | abortFailed | endText
    | timeoutFailed => exact keyed
  | takeControl _ _ _ _ stored =>
    rw [← sound.keyed _ _ stored] at stored
    exact Keyed.updateDialog keyed stored rfl
  | create _ _ _ shape =>
    exact keyed.setDialog fun active => by simp [shape, Dialog.ofContact, Dialog.ofPeer] at active
  | createByPeer _ _ _ _ _ _ shape =>
    exact keyed.setDialog fun active => by simp [shape, Dialog.ofPeer] at active
  | install element => exact keyed.install _ element
  | request _ _ stored => exact Keyed.updateDialog keyed stored rfl
  | skip _ stored => exact keyed.updateDialog stored rfl
  | sendText _ _ stored => exact Keyed.updateDialog keyed stored rfl
  | abort => exact Keyed.setDialog keyed (by simp)
  | @peerStatus message channel before dialog status cause _ delivered _ mapped named found fresh
      sameStatus ciphers contact _ stored allowed =>
    apply keyed.setDialog
    intro active
    obtain rfl : status = .active := active
    obtain ⟨-, action⟩ | closed | aborted := map_reached mapped
    · have waiting : dialog.mStatus = .waitConfirm :=
        (isStateTransitionAllowed_active.mp allowed).resolve_right (sound.reached _ _ stored).2
      simp only [KeepsKeys, cause] at keeps
      rw [← named] at found
      have key := keeps alive action delivered before found fresh (sameStatus.trans waiting) contact
      rw [ciphers, Dialog.withStatus_mDialogId, ← named]
      exact Option.isSome_iff_exists.mp (Std.ExtTreeMap.mem_iff_isSome_getElem?.mp key)
    · cases closed
    · cases aborted
  | removed _ _ _ waiting stored =>
    apply Keyed.setDialog keyed
    intro active
    rw [Dialog.withStatus_mStatus] at active
    subst active
    rcases sound.requested _ _ _ _ _ _ waiting with ⟨wrong, -⟩ | ⟨wrong, -⟩ | ⟨wrong, -⟩ <;>
      cases wrong
  | timeouted => exact Keyed.setDialog keyed (by simp)
  | remove => exact keyed.forget _

/-- The invariant of the reachable states. -/
theorem keyed_exec {s : Core w} (inv : Sound s.view ∧ Keyed s.view)
    (keeps : KeepsKeys p s (env, input)) :
    Sound (exec p env input s).view ∧ Keyed (exec p env input s).view :=
  exec_invariant (I := fun v => Sound v ∧ Keyed v)
    (fun again inv => ⟨inv.1.restart, Keyed.restart (by subst again; exact keeps)⟩)
    (fun alive _ _ move inv => ⟨inv.1.move move, inv.2.move inv.1 keeps alive move⟩) inv

theorem activeHasKey_of_keyed {s : Core w} (sound : Sound s.view) (keyed : Keyed s.view) :
    ActiveHasKey s := by
  intro dialogId dialog found active
  obtain ⟨element, present⟩ := keyed dialogId dialog found active
  refine ⟨?_, sound.installed dialogId element present⟩
  rw [Std.ExtTreeMap.mem_iff_isSome_getElem?]
  exact Option.isSome_iff_exists.mpr ⟨element, present⟩

/-- In every state of a run whose steps all keep the keys, ACTIVE implies a key. -/
theorem active_has_key (p : Platform w) {steps : List (Step w)}
    (keeps : Run.Along (next p) (KeepsKeys p) Core.initial steps) :
    ActiveHasKey (Run.after (next p) Core.initial steps) := by
  obtain ⟨sound, keyed⟩ := Run.invariant_after (I := fun s => Sound s.view ∧ Keyed s.view)
    (fun s step inv keeps => keyed_exec inv keeps)
    ⟨sound_initial, fun _ _ found => by simp [Core.initial] at found⟩ keeps
  exact activeHasKey_of_keyed sound keyed

end

/-- The handshake up to ACCEPT_DIALOG: the key was imported from the VERIFY_KEY. -/
theorem active_has_key_established :
    ((Sample.run Sample.established).mDialogStorage.find (str "dialog")).map (·.mStatus) =
      some .active ∧ ActiveHasKey (Sample.run Sample.established) := by
  refine ⟨by decide +kernel, active_has_key Sample.platform ?_⟩
  refine ⟨trivial, trivial, trivial, fun _ action => ?_, fun _ action => ?_, fun _ action => ?_,
    fun _ _ _ _ _ _ _ _ => ?_, trivial⟩
  · cases action
  · cases action
  · cases action
  · decide +kernel

/-- Started again, the program has the dialog and no cipher. An ACCEPT_DIALOG that comes before the
VERIFY_KEY makes the dialog ACTIVE without a cipher. -/
theorem active_without_key :
    ¬ ActiveHasKey (Sample.run (Sample.established ++ [(Sample.env, .restart)])) ∧
      ¬ ActiveHasKey (Sample.run (Sample.request ++ [Sample.receive .acceptDialog 1 []])) := by
  constructor
  · intro holds
    have key := (holds (str "dialog") (Sample.dialog .active 2 7) (by decide +kernel) rfl).1
    exact absurd key (by decide +kernel)
  · intro holds
    have key := (holds (str "dialog") (Sample.dialog .active 1 6) (by decide +kernel) rfl).1
    exact absurd key (by decide +kernel)

end SecureDialogues
