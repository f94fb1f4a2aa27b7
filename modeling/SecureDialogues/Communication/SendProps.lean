import SecureDialogues.Communication.Dispatch

/-!
# What sending and the storages do

The outcomes of the operations that the handlers are made of. A transmission can fail before
anything happened (signing), or after the attempt was made; an operation on a storage can miss its
record.
-/

namespace SecureDialogues

open Text Effect

section

variable {w : Nat} (p : Platform w) (env : Env w)

/-! ## The storages -/

theorem wrapper_of_some {s : Core w} {dialogId : Str} {dialog : Dialog w}
    (found : s.mDialogStorage.find dialogId = some dialog) :
    wrapper p dialogId s = (.ok dialog, s) :=
  Eff.readsOr_ok (by rw [found])

theorem wrapper_of_none {s : Core w} {dialogId : Str}
    (missing : s.mDialogStorage.find dialogId = none) :
    wrapper p dialogId s = (.error (.thrown (p.absent dialogId)), s) :=
  Eff.readsOr_error (by rw [missing])

theorem getContact_of_some {s : Core w} {contactId : Str} {contact : Contact}
    (found : s.mContactStorage[contactId]? = some contact) :
    getContact p contactId s = (.ok contact, s) :=
  Eff.readsOr_ok (by rw [found])

theorem getContact_of_none {s : Core w} {contactId : Str}
    (missing : s.mContactStorage[contactId]? = none) :
    getContact p contactId s = (.error (.thrown (p.absent contactId)), s) :=
  Eff.readsOr_error (by rw [missing])

theorem setStatus_of_allowed {dialog : Dialog w} {status : Status}
    (allowed : isStateTransitionAllowed dialog.mStatus status = true) (s : Core w) :
    setStatus p dialog status s = (.ok (dialog.withStatus status), s) := by
  rw [setStatus, if_pos allowed]
  rfl

theorem setStatus_of_refused {dialog : Dialog w} {status : Status}
    (refused : isStateTransitionAllowed dialog.mStatus status = false) (s : Core w) :
    ∃ e, setStatus p dialog status s = (.error (.thrown e), s) := by
  rw [setStatus, if_neg (by simp [refused])]
  exact ⟨_, rfl⟩

/-- What has not ended can be aborted. -/
theorem setAborted_of_open {dialog : Dialog w} (open' : dialog.mStatus.isEnded = false)
    (s : Core w) :
    setStatus p dialog .aborted s = (.ok (dialog.withStatus .aborted), s) := by
  have allowed : isStateTransitionAllowed dialog.mStatus .aborted = true := by
    rw [isStateTransitionAllowed_aborted, open']
    rfl
  exact setStatus_of_allowed p allowed s

theorem setAborted_of_ended {dialog : Dialog w} (ended : dialog.mStatus.isEnded = true)
    (s : Core w) : ∃ e, setStatus p dialog .aborted s = (.error (.thrown e), s) := by
  have refused : isStateTransitionAllowed dialog.mStatus .aborted = false := by
    rw [isStateTransitionAllowed_aborted, ended]
    rfl
  exact setStatus_of_refused p refused s

theorem has_iff {s : Core w} {dialogId : Str} : s.mDialogStorage.has dialogId = true ↔
    ∃ dialog, s.mDialogStorage.find dialogId = some dialog :=
  Option.isSome_iff_exists

theorem has_eq_false {s : Core w} {dialogId : Str} : s.mDialogStorage.has dialogId = false ↔
    s.mDialogStorage.find dialogId = none := by
  simp [DialogStorage.has]

theorem addDialog_of_has {s : Core w} {dialog : Dialog w}
    (taken : s.mDialogStorage.has dialog.mDialogId = true) :
    addDialog p dialog s = (.error (.thrown (p.duplicate dialog.mDialogId)), s) := by
  rw [addDialog, Eff.reads_bind, if_pos taken]
  rfl

theorem addDialog_of_new {s : Core w} {dialog : Dialog w}
    (new : s.mDialogStorage.has dialog.mDialogId = false) :
    addDialog p dialog s = (.ok (), s.addDialog dialog) := by
  rw [addDialog, Eff.reads_bind, if_neg (by simp [new])]
  rfl

/-! ## Sending -/

/-- The state after an attempt to transmit. -/
theorem channelSendMessage_eq (channelName : Str) (message : DialogMessage w) (s : Core w) :
    channelSendMessage env channelName message s =
      match env.send s.log channelName message with
      | .ok () => (.ok (), s.record (.handed channelName message true))
      | .error e => (.error (.thrown e), s.record (.handed channelName message false)) := by
  rw [channelSendMessage, Eff.reads_bind]
  cases env.send s.log channelName message <;> rfl

section

variable {env} {message : DialogMessage w} {channelName : Str} {s : Core w}

theorem sendAndForget_of_unsigned {e : Exn}
    (unsigned : env.createSign s.log (marshall message) = .error e) :
    sendAndForget env message channelName s = (.error (.thrown e), s) := by
  rw [sendAndForget, createSignature, Eff.readsOr_bind, unsigned]

/-- Without the channel a signed message goes nowhere. -/
theorem sendAndForget_of_apart {sign : Str}
    (signed : env.createSign s.log (marshall message) = .ok sign)
    (apart : channelName ∉ s.mChannels) :
    sendAndForget env message channelName s = (.ok (), s) := by
  rw [sendAndForget, createSignature, Eff.readsOr_bind, signed]
  simp only [Eff.reads_bind]
  rw [if_neg apart]
  rfl

theorem sendAndForget_of_connected {sign : Str}
    (signed : env.createSign s.log (marshall message) = .ok sign)
    (connected : channelName ∈ s.mChannels) :
    sendAndForget env message channelName s =
      channelSendMessage env channelName (message.setSignature sign) s := by
  rw [sendAndForget, createSignature, Eff.readsOr_bind, signed]
  simp only [Eff.reads_bind]
  rw [if_pos connected]

end

/-- `sendAndForget`: signing fails, the channel is not connected, or there is one attempt. -/
theorem sendAndForget_cases (message : DialogMessage w) (channelName : Str) (s : Core w) :
    (∃ e, env.createSign s.log (marshall message) = .error e ∧
      sendAndForget env message channelName s = (.error (.thrown e), s)) ∨
    (channelName ∉ s.mChannels ∧ sendAndForget env message channelName s = (.ok (), s)) ∨
    ∃ sign, (env.send s.log channelName (message.setSignature sign) = .ok () ∧
        sendAndForget env message channelName s =
          (.ok (), s.record (.handed channelName (message.setSignature sign) true))) ∨
      ∃ e, env.send s.log channelName (message.setSignature sign) = .error e ∧
        sendAndForget env message channelName s =
          (.error (.thrown e), s.record (.handed channelName (message.setSignature sign) false)) := by
  cases signed : env.createSign s.log (marshall message) with
  | error e => exact .inl ⟨e, rfl, sendAndForget_of_unsigned signed⟩
  | ok sign =>
    by_cases connected : channelName ∈ s.mChannels
    · rw [sendAndForget_of_connected signed connected, channelSendMessage_eq]
      refine .inr (.inr ⟨sign, ?_⟩)
      cases outcome : env.send s.log channelName (message.setSignature sign) with
      | ok u => exact .inl ⟨rfl, rfl⟩
      | error e => exact .inr ⟨e, rfl, rfl⟩
    · exact .inr (.inl ⟨connected, sendAndForget_of_apart signed connected⟩)

/-- `sendAndForget` only hands over. -/
theorem sendAndForget_log (message : DialogMessage w) (channelName : Str) (s : Core w) :
    ∃ events, (sendAndForget env message channelName s).2 = { s with log := s.log ++ events } := by
  rcases sendAndForget_cases env message channelName s with
    ⟨e, -, outcome⟩ | ⟨-, outcome⟩ | ⟨sign, ⟨-, outcome⟩ | ⟨e, -, outcome⟩⟩
  · exact ⟨[], by simp [outcome]⟩
  · exact ⟨[], by simp [outcome]⟩
  · exact ⟨[.handed channelName (message.setSignature sign) true], by rw [outcome]; rfl⟩
  · exact ⟨[.handed channelName (message.setSignature sign) false], by rw [outcome]; rfl⟩

/-- Signing the message fails after some events, or its transmission over a connected channel. -/
def ForgettingFails (s : Core w) (message : DialogMessage w) (channelName : Str) : Prop :=
  (∃ e, env.createSign s.log (marshall message) = .error e) ∨ channelName ∈ s.mChannels ∧
    ∃ sign e, env.createSign s.log (marshall message) = .ok sign ∧
      env.send s.log channelName (message.setSignature sign) = .error e

/-- When `sendAndForget` throws. -/
theorem sendAndForget_outcome (message : DialogMessage w) (channelName : Str) (s : Core w) :
    ForgettingFails env s message channelName ∧
        (∃ e, (sendAndForget env message channelName s).1 = .error (.thrown e)) ∨
      ¬ ForgettingFails env s message channelName ∧
        (sendAndForget env message channelName s).1 = .ok () := by
  rw [ForgettingFails, sendAndForget, createSignature, Eff.readsOr_bind]
  cases env.createSign s.log (marshall message) with
  | error e => exact .inl ⟨.inl ⟨e, rfl⟩, e, rfl⟩
  | ok sign =>
    simp only [Eff.reads_bind]
    by_cases connected : channelName ∈ s.mChannels
    · rw [if_pos connected, channelSendMessage_eq]
      cases outcome : env.send s.log channelName (message.setSignature sign) with
      | ok u =>
        refine .inr ⟨?_, rfl⟩
        rintro (⟨e, unsigned⟩ | ⟨-, other, e, same, failed⟩)
        · cases unsigned
        · cases same
          rw [outcome] at failed
          cases failed
      | error e => exact .inl ⟨.inr ⟨connected, sign, e, rfl, outcome⟩, e, rfl⟩
    · rw [if_neg connected]
      refine .inr ⟨?_, rfl⟩
      rintro (⟨e, unsigned⟩ | ⟨joined, -⟩)
      · cases unsigned
      · exact connected joined

/-- `sendMessage`: the channel is not connected, signing fails, or the delivery is pending and
there is one attempt. -/
theorem sendMessage_cases (message : DialogMessage w) (channelName : Str)
    (handler : DeliveryHandler) (s : Core w) :
    (channelName ∉ s.mChannels ∧ sendMessage env message channelName handler s = (.ok (), s)) ∨
    (∃ e, env.createSign s.log (marshall message) = .error e ∧
      sendMessage env message channelName handler s = (.error (.thrown e), s)) ∨
    ∃ sign wait, channelName ∈ s.mChannels ∧
      ((env.send s.log channelName (message.setSignature sign) = .ok () ∧
        sendMessage env message channelName handler s =
          (.ok (), ({ s with
            mRepo := s.mRepo.store env.systemClock handler
              (message.mDialogId, message.mSequentialNumber) wait } : Core w).record
                (.handed channelName (message.setSignature sign) true))) ∨
      ∃ e, env.send s.log channelName (message.setSignature sign) = .error e ∧
        sendMessage env message channelName handler s =
          (.error (.thrown e), ({ s with
            mRepo := s.mRepo.store env.systemClock handler
              (message.mDialogId, message.mSequentialNumber) wait } : Core w).record
                (.handed channelName (message.setSignature sign) false))) := by
  rw [sendMessage, Eff.reads_bind]
  cases channel : s.mChannels[channelName]? with
  | none => exact .inl ⟨by simpa using channel, rfl⟩
  | some wait =>
    have connected : channelName ∈ s.mChannels := by
      rw [Std.ExtTreeMap.mem_iff_isSome_getElem?, channel]
      rfl
    simp only
    rw [createSignature, Eff.readsOr_bind]
    cases env.createSign s.log (marshall message) with
    | error e => exact .inr (.inl ⟨e, rfl, rfl⟩)
    | ok sign =>
      simp only [Eff.update_bind]
      rw [channelSendMessage_eq]
      refine .inr (.inr ⟨sign, wait, connected, ?_⟩)
      cases outcome : env.send s.log channelName (message.setSignature sign) with
      | ok u =>
        exact .inl ⟨rfl, rfl⟩
      | error e =>
        exact .inr ⟨e, rfl, rfl⟩

/-! ## Messages -/

theorem makeMessage_of_allowed {action : Action} {dialog : Dialog w}
    (allowed : isMessageActionAllowed dialog.mStatus action = true) (contact : Contact)
    (content : Str) (s : Core w) :
    makeMessage p env action dialog contact content s =
      (.ok (requestMessage env action dialog contact content, dialog.makeNextSequental), s) := by
  rw [makeMessage, if_pos allowed]
  rfl

theorem makeMessage_of_refused {action : Action} {dialog : Dialog w}
    (refused : isMessageActionAllowed dialog.mStatus action = false) (contact : Contact)
    (content : Str) (s : Core w) :
    ∃ e, makeMessage p env action dialog contact content s = (.error (.thrown e), s) := by
  rw [makeMessage, if_neg (by simp [refused])]
  exact ⟨_, rfl⟩

end

end SecureDialogues
