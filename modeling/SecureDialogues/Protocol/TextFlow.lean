import SecureDialogues.Lib.Run
import SecureDialogues.Protocol.Receiving

/-!
# Texts and the status of their dialog

A text goes out only from an ACTIVE dialog. An incoming text is shown as soon as the session cipher
reads it, and the cipher is there before the dialog is ACTIVE and after it has ended.
-/

namespace SecureDialogues

open Text Effect

section

variable {w : Nat} (p : Platform w)

/-- An incoming text is shown only if its dialog is stored and ACTIVE. -/
def ShowsOnlyActive (s : Core w) (step : Step w) : Prop :=
  match step.2 with
  | .dispatch message _ => message.mAction = .message →
      (∃ dialogId, incomingTexts (next p s step) dialogId ≠ incomingTexts s dialogId) →
        ∃ dialog, s.mDialogStorage.find message.mDialogId = some dialog ∧ dialog.mStatus = .active
  | _ => True

/-- No text that is delivered, newer than the stored counter and readable comes for a stored dialog
that is not ACTIVE. -/
def ReadableOnlyActive (s : Core w) (step : Step w) : Prop :=
  match step.2 with
  | .dispatch message channel => s.alive = true → message.mAction = .message →
      Delivered p step.1 s message channel → ∀ dialog,
        s.mDialogStorage.find message.mDialogId = some dialog →
          dialog.mPeerSequental < message.mSequentialNumber →
            (∃ text, decryptMessageBody p s.mCiphers message.mDialogId message.mContent = .ok text) →
              dialog.mStatus = .active
  | _ => True

variable {p} {env : Env w} {message : DialogMessage w} {channel : Str}

theorem incomingTexts_congr {s s' : Core w} (same : s'.mMessageContainer = s.mMessageContainer) :
    incomingTexts s' = incomingTexts s := by
  funext dialogId
  rw [incomingTexts, incomingTexts, same]

/-- A text is shown if and only if it is delivered, fresh and readable. -/
theorem dispatch_shows_iff (action : message.mAction = .message) (s : Core w) :
    (∃ dialogId, incomingTexts (dispatch p env message channel s).2 dialogId ≠
        incomingTexts s dialogId) ↔
      Delivered p env s message channel ∧ IsFresh s message ∧
        ∃ text, decryptMessageBody p s.mCiphers message.mDialogId message.mContent = .ok text := by
  rw [dispatch_of_other (by simp [action])]
  by_cases delivered : Delivered p env s message channel
  swap
  · have unaffected : Unaffected s (dispatchMessage p env message channel s).2 :=
      dispatchMessage_of_not_delivered delivered
    refine iff_of_false ?_ fun all => delivered all.1
    rintro ⟨dialogId, changed⟩
    exact changed (congrFun (incomingTexts_congr unaffected.messages) dialogId)
  rw [dispatchMessage_of_delivered delivered, runHandlers_of_message action,
    and_iff_right delivered]
  have acked : Unaffected s (ackedState env s message channel) :=
    (ackedState_noted env s message channel).unaffected
  rw [← incomingTexts_congr acked.messages, ← acked.ciphers]
  have fresh : IsFresh s message ↔ IsFresh (ackedState env s message channel) message := Iff.rfl
  rw [fresh]
  generalize ackedState env s message channel = s₁
  cases found : s₁.mDialogStorage.find message.mDialogId with
  | none =>
    refine iff_of_false ?_ ?_
    · rintro ⟨dialogId, changed⟩
      rcases textHandle_unknown found with ⟨-, -, adds⟩ | ⟨-, unaffected, -⟩
      · exact changed (adds.incomingTexts dialogId)
      · exact changed (congrFun (incomingTexts_congr unaffected.messages) dialogId)
    · rintro ⟨⟨dialog, stored, -⟩, -⟩
      rw [found] at stored
      cases stored
  | some dialog =>
    by_cases newer : dialog.mPeerSequental < message.mSequentialNumber
    swap
    · rw [textHandle_of_old found newer]
      apply iff_of_false (by simp)
      rintro ⟨⟨other, stored, newer'⟩, -⟩
      obtain rfl : dialog = other := Option.some.inj (found.symm.trans stored)
      exact newer newer'
    rw [and_iff_right ⟨dialog, found, newer⟩]
    cases read : decryptMessageBody p s₁.mCiphers message.mDialogId message.mContent with
    | error e =>
      rw [textHandle_of_unread found newer read]
      refine iff_of_false ?_ (by simp)
      rintro ⟨dialogId, changed⟩
      exact changed ((abortOnException_adds s₁).1.incomingTexts dialogId)
    | ok text =>
      rw [textHandle_of_read found newer read]
      refine iff_of_true ⟨message.mDialogId, ?_⟩ ⟨text, rfl⟩
      rw [incomingTexts_textState, if_pos rfl]
      simp

/-- When a step shows texts of ACTIVE dialogs only. -/
theorem showsOnlyActive_iff (s : Core w) (step : Step w) :
    ShowsOnlyActive p s step ↔ ReadableOnlyActive p s step := by
  obtain ⟨env, input⟩ := step
  cases input with
  | dispatch message channel =>
    simp only [ShowsOnlyActive, ReadableOnlyActive, next]
    cases alive : s.alive with
    | false =>
      rw [exec_of_dead p env (by simp [alive])]
      refine iff_of_true (fun _ changed => ?_) fun running => absurd running (by simp)
      obtain ⟨_, different⟩ := changed
      exact absurd rfl different
    | true =>
      rw [imp_iff_right (rfl : true = true)]
      apply imp_congr_right
      intro action
      rw [incomingTexts_congr (exec_dispatch_messages alive), dispatch_shows_iff action]
      constructor
      · intro only delivered dialog found newer readable
        obtain ⟨other, stored, active⟩ := only ⟨delivered, ⟨dialog, found, newer⟩, readable⟩
        obtain rfl : dialog = other := Option.some.inj (found.symm.trans stored)
        exact active
      · rintro only ⟨delivered, ⟨dialog, found, newer⟩, readable⟩
        exact ⟨dialog, found, only delivered dialog found newer readable⟩
  | _ => exact Iff.rfl

/-- At every step of every run, texts of ACTIVE dialogs only are shown exactly under this
condition. -/
theorem texts_need_active_iff (p : Platform w) (steps : List (Step w)) :
    Run.Along (next p) (fun s step => ShowsOnlyActive p s step ↔ ReadableOnlyActive p s step)
      Core.initial steps :=
  Run.along_of_forall showsOnlyActive_iff Core.initial steps

end

/-- The key is imported while the dialog still waits for its confirmation, and a text is shown. -/
theorem text_shown_before_active :
    ¬ ShowsOnlyActive Sample.platform
      (Sample.run (Sample.request ++ [Sample.receive .verifyKey 1 Sample.keyText]))
      (Sample.receive .message 2 (str "early")) := by
  intro only
  obtain ⟨dialog, found, active⟩ := only rfl ⟨str "dialog", by decide +kernel⟩
  have waiting := congrArg (Option.map Dialog.mStatus) found
  rw [Option.map_some, active] at waiting
  revert waiting
  decide +kernel

end SecureDialogues
