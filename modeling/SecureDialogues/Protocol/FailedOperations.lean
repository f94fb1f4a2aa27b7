import SecureDialogues.Protocol.Receiving

/-!
# User operations that fail

`DialogActionHandler::createDialog` stores the new dialog before it sends the request, and
`MessageDespatcher::sendMessage` registers the delivery before it transmits. An exception of a later
part takes nothing back.
-/

namespace SecureDialogues

open Text Effect

section

variable {w : Nat} (p : Platform w) (env : Env w) (s : Core w)

/-! ## Statements -/

/-- The dialogs and the pending deliveries are as they were. -/
def LeavesNothing (s' : Core w) : Prop :=
  s'.mDialogStorage = s.mDialogStorage ∧ s'.mRepo = s.mRepo

/-- `createDialog` for a stored contact, if it throws, leaves nothing behind. A contact that is not
stored fails earlier, and not for the transmission. -/
def CreateFailsCleanly (contact : Contact) : Prop :=
  contact.id ∈ s.mContactStorage →
    ∀ e s', DialogActionHandler.createDialog p env contact s = (.error (.thrown e), s') →
      LeavesNothing s s'

/-- `closeDialog`, if it throws, leaves nothing behind. -/
def CloseFailsCleanly (dialogId : Str) : Prop :=
  ∀ e s', DialogActionHandler.closeDialog p env dialogId s = (.error (.thrown e), s') →
    LeavesNothing s s'

/-- The channel is connected, but the message is signed and not transmitted. -/
def TransmissionFails (message : DialogMessage w) (channelName : Str) : Prop :=
  channelName ∈ s.mChannels ∧ ∃ sign e, env.createSign s.log (marshall message) = .ok sign ∧
    env.send s.log channelName (message.setSignature sign) = .error e

/-- The channel is connected, but the message is not signed. -/
def SigningFails (message : DialogMessage w) (channelName : Str) : Prop :=
  channelName ∈ s.mChannels ∧ ∃ e, env.createSign s.log (marshall message) = .error e

/-- The dialog that `createDialog` makes. -/
def newDialog (contact : Contact) : Dialog w :=
  .ofContact env.initSequental env.makeUiid contact.id

/-- The request of a new dialog with a stored contact is signed and transmitted, if its channel is
connected. -/
def RequestIsSent (contact : Contact) : Prop :=
  s.mDialogStorage.has env.makeUiid = false →
    ∀ stored, s.mContactStorage[contact.id]? = some stored →
      ¬ SigningFails env (s.addDialog (newDialog env contact))
        (requestMessage env .createDialog (newDialog env contact) stored []) stored.channelMoniker ∧
      ¬ TransmissionFails env (s.addDialog (newDialog env contact))
        (requestMessage env .createDialog (newDialog env contact) stored []) stored.channelMoniker

/-- The request to close an active dialog is transmitted once it is signed, if its channel is
connected, or another delivery is pending under its number. -/
def ClosingIsSent (dialogId : Str) : Prop :=
  ∀ dialog contact, s.mDialogStorage.find dialogId = some dialog → dialog.mStatus = .active →
    s.mContactStorage[dialog.mContactId]? = some contact →
      s.mRepo[(dialogId, dialog.mThisSequental + 1)]? ≠ none ∨
        ¬ TransmissionFails env s (requestMessage env .closeDialog dialog contact [])
          contact.channelMoniker

variable {s}

/-! ## What a failing transmission leaves behind -/

theorem store_eq_self_iff (mRepo : TimeoutedRepository w DeliveryHandler) (now : Int)
    (handler : DeliveryHandler) (key : NumberedKey w) (timeout : Nat) :
    mRepo.store now handler key timeout = mRepo ↔ mRepo[key]? ≠ none := by
  constructor
  · intro same absent
    have stored := TimeoutedRepository.getElem?_store mRepo now handler key key timeout
    rw [same, absent, if_pos ⟨rfl, rfl⟩] at stored
    cases stored
  · intro present
    apply Std.ExtTreeMap.ext_getElem?
    intro other
    rw [TimeoutedRepository.getElem?_store, if_neg fun both => present both.2]

/-- `sendMessage` throws before it has done anything, throws after the delivery is registered, or
returns. -/
theorem sendMessage_outcome (message : DialogMessage w) (channelName : Str)
    (handler : DeliveryHandler) (s : Core w) :
    (SigningFails env s message channelName ∧
      ∃ e, sendMessage env message channelName handler s = (.error (.thrown e), s)) ∨
    (TransmissionFails env s message channelName ∧ ∃ e sign wait,
      sendMessage env message channelName handler s =
        (.error (.thrown e), ({ s with
          mRepo := s.mRepo.store env.systemClock handler
            (message.mDialogId, message.mSequentialNumber) wait } : Core w).record
              (.handed channelName (message.setSignature sign) false))) ∨
    (¬ SigningFails env s message channelName ∧ ¬ TransmissionFails env s message channelName ∧
      ∃ s', sendMessage env message channelName handler s = (.ok (), s')) := by
  unfold SigningFails TransmissionFails
  rw [sendMessage, Eff.reads_bind]
  cases channel : s.mChannels[channelName]? with
  | none =>
    have apart : channelName ∉ s.mChannels := by simpa using channel
    exact .inr (.inr ⟨fun fails => apart fails.1, fun fails => apart fails.1, s, rfl⟩)
  | some wait =>
    have connected : channelName ∈ s.mChannels := by
      rw [Std.ExtTreeMap.mem_iff_isSome_getElem?, channel]
      rfl
    simp only [connected, true_and]
    rw [createSignature, Eff.readsOr_bind]
    cases signed : env.createSign s.log (marshall message) with
    | error e => exact .inl ⟨⟨e, rfl⟩, e, rfl⟩
    | ok sign =>
      simp only [Eff.update_bind]
      rw [channelSendMessage_eq]
      cases sent : env.send s.log channelName (message.setSignature sign) with
      | ok u =>
        refine .inr (.inr ⟨by simp, ?_, _, rfl⟩)
        intro fails
        obtain ⟨sign', e, same, failed⟩ := fails
        cases same
        rw [sent] at failed
        cases failed
      | error e => exact .inr (.inl ⟨⟨sign, e, rfl, sent⟩, e, sign, wait, rfl⟩)

/-- The request of an operation on a stored dialog of a stored contact, in a status that allows
it. -/
theorem sendRequest_of_allowed {s : Core w} {dialogId : Str} {dialog : Dialog w} {contact : Contact}
    {action : Action} (found : s.mDialogStorage.find dialogId = some dialog)
    (known : s.mContactStorage[dialog.mContactId]? = some contact)
    (allowed : isMessageActionAllowed dialog.mStatus action = true) (handler : DeliveryHandler)
    (content : Str) :
    DialogActionHandler.sendRequest p env dialogId action handler content s = (do
      sendMessage env (requestMessage env action dialog contact content) contact.channelMoniker
        handler
      save p dialog.makeNextSequental : M w Unit) s := by
  rw [DialogActionHandler.sendRequest, Eff.bind_ok (wrapper_of_some p found),
    Eff.bind_ok (getContact_of_some p known),
    Eff.bind_ok (makeMessage_of_allowed p env allowed contact content s)]

/-! ## The creation of a dialog -/

theorem createDialog_eq (contact : Contact) (s : Core w) :
    DialogActionHandler.createDialog p env contact s = (do
      addDialog p (newDialog env contact)
      let stored ← wrapper p (newDialog env contact).mDialogId
      DialogActionHandler.sendRequest p env (newDialog env contact).mDialogId .createDialog
        (.forCreateDialogRequest stored.mDialogId contact) [] : M w Unit) s := rfl

/-- Once the new dialog is stored, a failure of its request leaves it there. -/
theorem createDialog_of_new {s : Core w} {contact stored : Contact}
    (new : s.mDialogStorage.has env.makeUiid = false)
    (known : s.mContactStorage[contact.id]? = some stored) :
    RequestIsSent env s contact ∧
        (∃ s', DialogActionHandler.createDialog p env contact s = (.ok (), s')) ∨
      ¬ RequestIsSent env s contact ∧
        ∃ e s', DialogActionHandler.createDialog p env contact s = (.error (.thrown e), s') ∧
          s'.mDialogStorage.has env.makeUiid = true := by
  have free : s.mDialogStorage.has (newDialog env contact).mDialogId = false := new
  have found : (s.addDialog (newDialog env contact)).mDialogStorage.find
      (newDialog env contact).mDialogId = some (newDialog env contact) :=
    DialogStorage.find_put_self _
  have there : (s.addDialog (newDialog env contact)).mDialogStorage.has env.makeUiid = true :=
    has_iff.mpr ⟨_, found⟩
  have sent : RequestIsSent env s contact ↔
      ¬ SigningFails env (s.addDialog (newDialog env contact))
        (requestMessage env .createDialog (newDialog env contact) stored []) stored.channelMoniker ∧
      ¬ TransmissionFails env (s.addDialog (newDialog env contact))
        (requestMessage env .createDialog (newDialog env contact) stored [])
        stored.channelMoniker := by
    simp only [RequestIsSent, new, known, Option.some.injEq, forall_eq', forall_const]
  rw [sent, createDialog_eq, Eff.bind_ok (addDialog_of_new p free),
    Eff.bind_ok (wrapper_of_some p found),
    sendRequest_of_allowed p env found (by exact known) (by rfl)]
  rcases sendMessage_outcome env
      (requestMessage env .createDialog (newDialog env contact) stored []) stored.channelMoniker
      (.forCreateDialogRequest (newDialog env contact).mDialogId contact)
      (s.addDialog (newDialog env contact)) with
    ⟨fails, e, outcome⟩ | ⟨fails, e, sign, wait, outcome⟩ | ⟨signs, sends, s', outcome⟩
  · rw [Eff.bind_error outcome]
    exact .inr ⟨fun both => both.1 fails, e, _, rfl, there⟩
  · rw [Eff.bind_error outcome]
    exact .inr ⟨fun both => both.2 fails, e, _, rfl, there⟩
  · rw [Eff.bind_ok outcome]
    exact .inl ⟨⟨signs, sends⟩, _, rfl⟩

theorem createFailsCleanly_iff (s : Core w) (contact : Contact) :
    CreateFailsCleanly p env s contact ↔ RequestIsSent env s contact := by
  by_cases new : s.mDialogStorage.has env.makeUiid = false
  swap
  · have taken : s.mDialogStorage.has (newDialog env contact).mDialogId = true :=
      Bool.not_eq_false _ ▸ new
    refine iff_of_true (fun _ e s' thrown => ?_) fun absent => absurd absent new
    rw [createDialog_eq, Eff.bind_error (addDialog_of_has p taken)] at thrown
    cases thrown
    exact ⟨rfl, rfl⟩
  cases known : s.mContactStorage[contact.id]? with
  | none =>
    refine iff_of_true (fun member => ?_) fun _ stored present => ?_
    · rw [Std.ExtTreeMap.mem_iff_isSome_getElem?, known] at member
      cases member
    · rw [known] at present
      cases present
  | some stored =>
    have member : contact.id ∈ s.mContactStorage := by
      rw [Std.ExtTreeMap.mem_iff_isSome_getElem?, known]
      rfl
    rcases createDialog_of_new p env new known with
      ⟨sent, s', returns⟩ | ⟨fails, e, s', throws, stays⟩
    · refine iff_of_true (fun _ e s'' thrown => ?_) sent
      rw [returns] at thrown
      cases thrown
    · refine iff_of_false (fun clean => ?_) fails
      rw [(clean member e s' throws).1, new] at stays
      cases stays

/-! ## The end of a dialog -/

/-- Aborting a dialog stores and registers nothing before it can fail. -/
theorem abortDialog_failsCleanly (dialogId : Str) (s : Core w) {e : Exn} {s' : Core w}
    (thrown : DialogActionHandler.abortDialog p env dialogId s = (.error (.thrown e), s')) :
    LeavesNothing s s' := by
  unfold DialogActionHandler.abortDialog at thrown
  cases found : s.mDialogStorage.find dialogId with
  | none =>
    rw [Eff.bind_error (wrapper_of_none p found)] at thrown
    cases thrown
    exact ⟨rfl, rfl⟩
  | some dialog =>
    rw [Eff.bind_ok (wrapper_of_some p found)] at thrown
    cases known : s.mContactStorage[dialog.mContactId]? with
    | none =>
      rw [Eff.bind_error (getContact_of_none p known)] at thrown
      cases thrown
      exact ⟨rfl, rfl⟩
    | some contact =>
      rw [Eff.bind_ok (getContact_of_some p known)] at thrown
      split at thrown
      · rename_i allowed
        obtain ⟨events, same⟩ := sendAndForget_log env
          (makeAbort env.getTimestamp dialog.makeNextSequental.mDialogId contact.adress
            dialog.makeNextSequental.mThisSequental) contact.channelMoniker s
        rcases outcome : sendAndForget env
          (makeAbort env.getTimestamp dialog.makeNextSequental.mDialogId contact.adress
            dialog.makeNextSequental.mThisSequental) contact.channelMoniker s with ⟨e' | u, s''⟩
        · rw [Eff.bind_error outcome] at thrown
          rw [outcome] at same
          cases thrown
          change s' = _ at same
          rw [same]
          exact ⟨rfl, rfl⟩
        · have live : dialog.makeNextSequental.mStatus.isEnded = false := by
            simpa [isMessageActionAllowed_abort] using allowed
          rw [Eff.bind_ok outcome, Eff.bind_ok (setAborted_of_open p live s'')] at thrown
          cases thrown
      · cases thrown

/-- The close request of an active dialog. -/
theorem closeFailsCleanly_of_active {s : Core w} {dialogId : Str} {dialog : Dialog w}
    {contact : Contact} (found : s.mDialogStorage.find dialogId = some dialog)
    (active : dialog.mStatus = .active)
    (known : s.mContactStorage[dialog.mContactId]? = some contact) :
    CloseFailsCleanly p env s dialogId ↔
      s.mRepo[(dialogId, dialog.mThisSequental + 1)]? ≠ none ∨
        ¬ TransmissionFails env s (requestMessage env .closeDialog dialog contact [])
          contact.channelMoniker := by
  have allowed : isMessageActionAllowed dialog.mStatus .closeDialog = true := by
    rw [active]
    rfl
  have named : dialog.mDialogId = dialogId := DialogStorage.mDialogId_of_find found
  unfold CloseFailsCleanly DialogActionHandler.closeDialog
  rw [Eff.bind_ok (wrapper_of_some p found), if_pos active,
    Eff.bind_ok (getContact_of_some p known), sendRequest_of_allowed p env found known allowed]
  rcases sendMessage_outcome env (requestMessage env .closeDialog dialog contact [])
      contact.channelMoniker (.forCloseDialogRequest dialogId contact) s with
    ⟨fails, e, outcome⟩ | ⟨fails, e, sign, wait, outcome⟩ | ⟨-, sends, s', outcome⟩
  · -- not signed: nothing has been done yet
    have untransmitted : ¬ TransmissionFails env s
        (requestMessage env .closeDialog dialog contact []) contact.channelMoniker := by
      obtain ⟨-, e, failed⟩ := fails
      intro ⟨_, sign, e', signed, _⟩
      rw [failed] at signed
      cases signed
    rw [Eff.bind_error outcome]
    refine iff_of_true (fun e s' thrown => ?_) (.inr untransmitted)
    cases thrown
    exact ⟨rfl, rfl⟩
  · -- not transmitted: the delivery is registered, unless its number is taken
    rw [Eff.bind_error outcome]
    have key : ((requestMessage env .closeDialog dialog contact []).mDialogId,
        (requestMessage env .closeDialog dialog contact []).mSequentialNumber) =
          (dialogId, dialog.mThisSequental + 1) := by rw [← named]; rfl
    constructor
    · intro clean
      have same := (clean e _ rfl).2
      rw [key] at same
      exact .inl ((store_eq_self_iff _ _ _ _ wait).mp same)
    · intro taken e' s'' thrown
      cases thrown
      refine ⟨rfl, ?_⟩
      rw [key]
      exact (store_eq_self_iff _ _ _ _ wait).mpr (taken.resolve_right fun sends => sends fails)
  · rw [Eff.bind_ok outcome]
    exact iff_of_true (fun e s' thrown => nomatch thrown) (.inr sends)

theorem closeFailsCleanly_iff (s : Core w) (dialogId : Str) :
    CloseFailsCleanly p env s dialogId ↔ ClosingIsSent env s dialogId := by
  cases found : s.mDialogStorage.find dialogId with
  | none =>
    refine iff_of_true (fun e s' thrown => ?_) fun dialog contact present => ?_
    · rw [DialogActionHandler.closeDialog, Eff.bind_error (wrapper_of_none p found)] at thrown
      cases thrown
      exact ⟨rfl, rfl⟩
    · rw [found] at present
      cases present
  | some dialog =>
    by_cases active : dialog.mStatus = .active
    swap
    · refine iff_of_true (fun e s' thrown => ?_) fun other contact present ends => ?_
      · rw [DialogActionHandler.closeDialog, Eff.bind_ok (wrapper_of_some p found),
          if_neg active] at thrown
        exact abortDialog_failsCleanly p env dialogId s thrown
      · rw [found] at present
        cases present
        exact absurd ends active
    cases known : s.mContactStorage[dialog.mContactId]? with
    | none =>
      refine iff_of_true (fun e s' thrown => ?_) fun other contact present _ stored => ?_
      · rw [DialogActionHandler.closeDialog, Eff.bind_ok (wrapper_of_some p found),
          if_pos active, Eff.bind_error (getContact_of_none p known)] at thrown
        cases thrown
        exact ⟨rfl, rfl⟩
      · rw [found] at present
        cases present
        rw [known] at stored
        cases stored
    | some contact =>
      rw [closeFailsCleanly_of_active p env found active known]
      constructor
      · intro sent other contact' present _ stored
        rw [found] at present
        cases present
        rw [known] at stored
        cases stored
        exact sent
      · intro sent
        exact sent dialog contact found active known

variable (s)

/-- Exactly when a failing creation and a failing end of a dialog leave nothing behind. -/
theorem failed_operations_leave_nothing_iff :
    (∀ contact, CreateFailsCleanly p env s contact ↔ RequestIsSent env s contact) ∧
      ∀ dialogId, CloseFailsCleanly p env s dialogId ↔ ClosingIsSent env s dialogId :=
  ⟨createFailsCleanly_iff p env s, closeFailsCleanly_iff p env s⟩

end

/-- The mail connection is down: every transmission is refused. -/
def Sample.offline : Env 64 :=
  { Sample.env with send := fun _ _ _ => .error { kind := .other, what := str "not connected" } }

/-- A refused request leaves the new dialog stored, and a refused closing leaves its delivery
pending. -/
theorem failed_operations_leave_entries :
    ¬ CreateFailsCleanly Sample.platform Sample.offline (Sample.run Sample.connect) Sample.peer ∧
      ¬ CloseFailsCleanly Sample.platform Sample.offline (Sample.run Sample.established)
        (str "dialog") := by
  rw [createFailsCleanly_iff, closeFailsCleanly_iff]
  constructor
  · intro sent
    apply (sent (by decide +kernel) Sample.peer (by decide +kernel)).2
    exact ⟨by decide +kernel, str "c2lnbg==", _, rfl, rfl⟩
  · intro sent
    rcases sent (Sample.dialog .active 2 7) Sample.peer (by decide +kernel) rfl
      (by decide +kernel) with taken | transmitted
    · revert taken
      decide +kernel
    · exact transmitted ⟨by decide +kernel, str "c2lnbg==", _, rfl, rfl⟩

end SecureDialogues
