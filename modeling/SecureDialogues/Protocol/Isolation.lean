import SecureDialogues.Lib.Run
import SecureDialogues.Protocol.Despatching

/-!
# Dialogs of other contacts

The signature of a message is checked under the key of the sender's address, and the handlers look
the dialog up by its identifier alone. Only a request for a new dialog is compared with the address
and the channel of a contact, so a contact can act in a dialog with another one, or end the program
with it.
-/

namespace SecureDialogues

open Text Effect

section

variable {w : Nat}

/-- The program runs if it ran, the dialog has the status and the counters it had, and its messages,
its cipher and its pending deliveries are as they were. -/
structure KeepsDialog (dialog : Dialog w) (s s' : Core w) : Prop where
  alive : s'.alive = s.alive
  stored : ∃ after, s'.mDialogStorage.find dialog.mDialogId = some after ∧
    after.mStatus = dialog.mStatus ∧ after.mPeerSequental = dialog.mPeerSequental ∧
      after.mThisSequental = dialog.mThisSequental
  messages : s'.mMessageContainer.messagesOf dialog.mDialogId =
    s.mMessageContainer.messagesOf dialog.mDialogId
  cipher : s'.mCiphers[dialog.mDialogId]? = s.mCiphers[dialog.mDialogId]?
  pending : ∀ number : BitVec w,
    s'.mRepo[(dialog.mDialogId, number)]? = s.mRepo[(dialog.mDialogId, number)]?

theorem Unaffected.keepsDialog {s s' : Core w} (same : Unaffected s s') {dialog : Dialog w}
    (stored : s.mDialogStorage.find dialog.mDialogId = some dialog) : KeepsDialog dialog s s' where
  alive := same.alive
  stored := ⟨dialog, by rw [same.dialogs]; exact stored, rfl, rfl, rfl⟩
  messages := by rw [same.messages]
  cipher := by rw [same.ciphers]
  pending := by simp [same.pending]

variable (p : Platform w)

/-- The message carries the identifier of a dialog with the contact, is correctly signed, and comes
from another address or over another channel. -/
structure IsForeign (s : Core w) (message : DialogMessage w) (channel : Str) (dialog : Dialog w)
    (contact : Contact) : Prop where
  stored : s.mDialogStorage.find message.mDialogId = some dialog
  bound : s.mContactStorage[dialog.mContactId]? = some contact
  signed : isSignatureOk p s.mRemote message = .ok true
  elsewhere : message.mAdress ≠ contact.adress ∨ channel ≠ contact.channelMoniker

/-- A message from elsewhere leaves the dialog alone. -/
def IsolatesDialogs (s : Core w) (step : Step w) : Prop :=
  match step.2 with
  | .dispatch message channel => ∀ dialog contact, IsForeign p s message channel dialog contact →
      KeepsDialog dialog s (next p s step)
  | _ => True

/-- From elsewhere comes no ACK of a pending delivery. Any other message from elsewhere can be
acknowledged, and is not delivered if a handler hears of it and it is newer than the stored
counter. -/
def RespectsContacts (s : Core w) (step : Step w) : Prop :=
  match step.2 with
  | .dispatch message channel => s.alive = true → ∀ dialog contact,
      IsForeign p s message channel dialog contact →
        (message.mAction = .ack →
          s.mRepo[(message.mDialogId, message.mSequentialNumber)]? = none) ∧
        (message.mAction ≠ .ack → Acknowledges step.1 s message channel) ∧
        (IsHandled message.mAction → dialog.mPeerSequental < message.mSequentialNumber →
          ¬ Delivered p step.1 s message channel)
  | _ => True

variable {p} {env : Env w} {message : DialogMessage w} {channel : Str}

/-- An ACK leaves the dialog and the program alone exactly if nothing waits for it. -/
theorem exec_ack_keepsDialog_iff (action : message.mAction = .ack) {s : Core w}
    (alive : s.alive = true) {dialog : Dialog w}
    (stored : s.mDialogStorage.find message.mDialogId = some dialog) :
    KeepsDialog dialog s (exec p env (.dispatch message channel) s) ↔
      s.mRepo[(message.mDialogId, message.mSequentialNumber)]? = none := by
  have named : dialog.mDialogId = message.mDialogId := DialogStorage.mDialogId_of_find stored
  rcases exec_ack_cases p env channel action alive with
    ⟨idle, same⟩ | ⟨⟨delivery, waiting⟩, ended⟩
  · rw [same]
    exact iff_of_true ((Unaffected.refl s).keepsDialog (named ▸ stored)) idle
  · refine iff_of_false (fun keeps => ?_) (by simp [waiting])
    rcases ended with erased | dead
    · have kept := keeps.pending message.mSequentialNumber
      rw [erased, named, getElem?_erase, if_pos rfl, waiting] at kept
      cases kept
    · have running := keeps.alive
      rw [dead, alive] at running
      cases running

/-- Any other message leaves the dialog and the program alone exactly if it is acknowledged and not
taken up. -/
theorem exec_other_keepsDialog_iff (action : message.mAction ≠ .ack) {s : Core w}
    (alive : s.alive = true) {dialog : Dialog w}
    (stored : s.mDialogStorage.find message.mDialogId = some dialog)
    (signed : isSignatureOk p s.mRemote message = .ok true) :
    KeepsDialog dialog s (exec p env (.dispatch message channel) s) ↔
      Acknowledges env s message channel ∧
        (IsHandled message.mAction → dialog.mPeerSequental < message.mSequentialNumber →
          ¬ Delivered p env s message channel) := by
  have named : dialog.mDialogId = message.mDialogId := DialogStorage.mDialogId_of_find stored
  have kept : ¬ SinkThrows p s message := fun throws => throws.not_signed signed
  constructor
  · intro keeps
    rcases exec_dispatch_cases p env message channel alive
      with ⟨returned, same⟩ | ⟨-, dead⟩
    swap
    · have running := keeps.alive
      rw [dead, alive] at running
      cases running
    rw [dispatch_returns_iff action] at returned
    rw [same, dispatch_of_other action] at keeps
    by_cases delivered : Delivered p env s message channel
    swap
    · exact ⟨((dispatchMessage_returns_iff delivered).mp returned).1, fun _ _ => delivered⟩
    refine ⟨delivered.acknowledges, fun handled newer _ => ?_⟩
    rw [dispatchMessage_of_delivered delivered] at keeps
    have fresh : IsFresh s message := ⟨dialog, stored, newer⟩
    rcases runHandlers_takes delivered (.fresh handled fresh) with
      ⟨-, counted, found, number⟩ | changed
    · obtain ⟨after, found', -, peer, -⟩ := keeps.stored
      rw [named] at found'
      obtain rfl : after = counted := Option.some.inj (found'.symm.trans found)
      rw [← number, peer] at newer
      exact absurd newer (by simp)
    · exact changed (named ▸ keeps.messages)
  · rintro ⟨acknowledges, respects⟩
    refine Unaffected.keepsDialog ((exec_other_unaffected_iff action alive).mpr ?_) (named ▸ stored)
    refine ⟨acknowledges, kept, ?_⟩
    rintro ⟨delivered, takes⟩
    cases takes with
    | fresh handled fresh =>
      obtain ⟨other, found, newer⟩ := fresh
      obtain rfl : dialog = other := Option.some.inj (stored.symm.trans found)
      exact respects handled newer delivered
    | opens opens =>
      rw [opens.unknown] at stored
      cases stored
    | unanswered _ unknown =>
      rw [unknown] at stored
      cases stored

/-- When a step leaves the dialogs of other contacts alone. -/
theorem isolatesDialogs_iff (s : Core w) (step : Step w) :
    IsolatesDialogs p s step ↔ RespectsContacts p s step := by
  obtain ⟨env, input⟩ := step
  cases input with
  | dispatch message channel =>
    simp only [IsolatesDialogs, RespectsContacts, next]
    cases alive : s.alive with
    | false =>
      rw [exec_of_dead p env (by simp [alive])]
      refine iff_of_true (fun dialog contact foreign => ?_) fun running => absurd running (by simp)
      apply (Unaffected.refl s).keepsDialog
      rw [DialogStorage.mDialogId_of_find foreign.stored]
      exact foreign.stored
    | true =>
      rw [imp_iff_right (rfl : true = true)]
      refine forall_congr' fun dialog => forall_congr' fun contact => imp_congr_right fun foreign => ?_
      by_cases ack : message.mAction = .ack
      · have unhandled : ¬ IsHandled message.mAction := by
          rw [ack]
          rintro (text | control)
          · cases text
          · cases control
        rw [exec_ack_keepsDialog_iff ack alive foreign.stored, imp_iff_right ack]
        refine (and_iff_left ⟨fun other => absurd ack other, fun handled => ?_⟩).symm
        exact absurd handled unhandled
      · rw [exec_other_keepsDialog_iff ack alive foreign.stored foreign.signed, imp_iff_right ack]
        exact (and_iff_right fun action => absurd action ack).symm
  | _ => exact Iff.rfl

/-- At every step of every run, the dialogs of other contacts are left alone exactly under these
conditions. -/
theorem dialogs_isolated_iff (p : Platform w) (steps : List (Step w)) :
    Run.Along (next p) (fun s step => IsolatesDialogs p s step ↔ RespectsContacts p s step)
      Core.initial steps :=
  Run.along_of_forall isolatesDialogs_iff Core.initial steps

end

/-! ## A third contact -/

namespace Sample

/-- A second contact on the same channel. -/
def third : Contact where
  channelMoniker := channel
  name := str "Third"
  adress := str "third@mail"
  id := str "third"
  publicKey := str "third key"

/-- The user asks the peer for a dialog and has two contacts. -/
def requestWithThird : List (Step 64) := request ++ [(env, .saveContact third)]

end Sample

/-- The third contact's ABORT ends the dialog with the peer. -/
theorem third_contact_aborts :
    ¬ IsolatesDialogs Sample.platform (Sample.run Sample.requestWithThird)
      (Sample.env, .dispatch
        { Sample.incoming .abort 1 [] with mAdress := Sample.third.adress } Sample.channel) := by
  intro isolates
  have keeps := isolates (Sample.dialog .waitConfirm 0 6) Sample.peer
    ⟨by decide +kernel, by decide +kernel, by decide +kernel, .inl (by decide +kernel)⟩
  obtain ⟨after, found, status, -⟩ := keeps.stored
  have aborted := congrArg (Option.map Dialog.mStatus) found
  rw [Option.map_some, status] at aborted
  revert aborted
  decide +kernel

end SecureDialogues
