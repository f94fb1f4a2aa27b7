import SecureDialogues.Lib.Duplex
import SecureDialogues.Protocol.Receiving

/-!
# Two instances over a channel

Two instances that have each other as contacts. What one of them transmits arrives at the other one
with the address of its sender, in the order in which it was transmitted.
-/

namespace SecureDialogues

open Text Effect

section

variable {w : Nat}

/-! ## What was transmitted -/

/-- The messages that the channels transmitted. -/
def transmittedOf (events : List (Event w)) : List (DialogMessage w) :=
  events.filterMap fun event =>
    match event with
    | .handed _ message true => some message
    | _ => none

/-- What was transmitted between two states of an instance. -/
def transmitted (before after : Core w) : List (DialogMessage w) :=
  transmittedOf (after.log.drop before.log.length)

theorem transmitted_eq {before after : Core w} {events : List (Event w)}
    (log : after.log = before.log ++ events) : transmitted before after = transmittedOf events := by
  rw [transmitted, log, List.drop_left]

theorem transmitted_self (s : Core w) : transmitted s s = [] := by
  simp [transmitted, transmittedOf]

theorem transmittedOf_append (first second : List (Event w)) :
    transmittedOf (first ++ second) = transmittedOf first ++ transmittedOf second :=
  List.filterMap_append

/-- Of notes, only ACKs are transmitted. -/
theorem transmittedOf_notes {events : List (Event w)}
    (notes : ∀ event ∈ events, event.isNote = true) :
    ∀ ack ∈ transmittedOf events, ack.mAction = .ack := by
  intro ack member
  obtain ⟨event, member, shown⟩ := List.mem_filterMap.mp member
  have note := notes event member
  cases event with
  | handed channel carried sent =>
    cases sent with
    | false => cases shown
    | true =>
      cases shown
      simpa [Event.isNote] using note
  | _ => cases shown

/-- The installation of a cipher transmits nothing. -/
theorem KeyStep.log {dialogId : Str} {s s' : Core w} (step : KeyStep dialogId s s') :
    ∃ events, s'.log = s.log ++ events ∧ transmittedOf events = [] := by
  rcases step with rfl | ⟨element, rfl⟩
  · exact ⟨[], (List.append_nil _).symm, rfl⟩
  · unfold Core.emplaceCipher
    split
    · exact ⟨[], (List.append_nil _).symm, rfl⟩
    · exact ⟨_, rfl, rfl⟩

/-! ## The parties -/

/-- One of the two: its program, what it gets from the outside, its own address, and the other one
as it knows it. -/
structure Party (w : Nat) where
  platform : Platform w
  env : Env w
  address : Str
  contact : Contact

/-- The message as it arrives. -/
def arriving (sender : Party w) (message : DialogMessage w) : DialogMessage w :=
  { message with mAdress := sender.address }

/-- The receiver's reaction to a message: its state and what it transmits. -/
def Party.react (receiver sender : Party w) (s : Core w) (message : DialogMessage w) :
    Core w × List (DialogMessage w) :=
  let s' := exec receiver.platform receiver.env
    (.dispatch (arriving sender message) receiver.contact.channelMoniker) s
  (s', transmitted s s')

/-- Whatever is signed, the signer returns. -/
def Signs (env : Env w) : Prop := ∀ log text, ∃ sign, env.createSign log text = .ok sign

/-- Every transmission succeeds. -/
def Transmits (env : Env w) : Prop := ∀ log channel message, env.send log channel message = .ok ()

/-- An instance that has the other party as a contact over a connected channel, where signing,
transmission, the check of the other's signatures and the export of a key succeed, the clocks
agree, and nothing is stored or pending under the identifier. -/
structure Knows (party other : Party w) (dialogId : Str) (s : Core w) : Prop where
  alive : s.alive = true
  registered : s.mContactStorage[party.contact.id]? = some party.contact
  address : party.contact.adress = other.address
  connected : party.contact.channelMoniker ∈ s.mChannels
  signs : Signs party.env
  transmits : Transmits party.env
  /-- A control message is made without a signature and signed as it is. -/
  verifies : ∀ log message sign, DialogActionHandler.isItYouAction message.mAction = true →
    message.mSign = [] → other.env.createSign log (marshall message) = .ok sign →
      isSignatureOk party.platform s.mRemote (arriving other (message.setSignature sign)) = .ok true
  recent : ∀ message, message.mTimestamp = other.env.getTimestamp → ¬ isExpired party.env message
  exports : ExportsKey party.platform party.env s other.address
  unknown : s.mDialogStorage.find dialogId = none
  idle : ∀ number : BitVec w, s.mRepo[(dialogId, number)]? = none

/-! ## Sending succeeds -/

variable {env : Env w}

theorem Knows.contactsAt {party other : Party w} {dialogId : Str} {s : Core w}
    (knows : Knows party other dialogId s) : ∃ contact rest,
      DialogActionHandler.contactsAt s.mContactStorage other.address party.contact.channelMoniker =
        contact :: rest ∧ contact.adress = other.address ∧
          contact.channelMoniker = party.contact.channelMoniker := by
  have member : party.contact ∈ DialogActionHandler.contactsAt s.mContactStorage other.address
      party.contact.channelMoniker := by
    rw [DialogActionHandler.contactsAt, List.mem_filter]
    refine ⟨List.mem_map.mpr ⟨(party.contact.id, party.contact), ?_, rfl⟩, by simp [knows.address]⟩
    exact Std.ExtTreeMap.mem_toList_iff_getElem?_eq_some.mpr knows.registered
  obtain ⟨contact, rest, shape⟩ := List.exists_cons_of_ne_nil (List.ne_nil_of_mem member)
  have first : contact ∈ DialogActionHandler.contactsAt s.mContactStorage other.address
      party.contact.channelMoniker := by
    rw [shape]
    exact List.mem_cons_self
  rw [DialogActionHandler.contactsAt, List.mem_filter] at first
  exact ⟨contact, rest, shape, by simpa using first.2⟩

/-- A signed control message of the other party is delivered. -/
theorem Knows.delivered {party other : Party w} {dialogId : Str} {s₀ s : Core w}
    (knows : Knows party other dialogId s₀) (remote : s.mRemote = s₀.mRemote)
    {log : List (Event w)} {message : DialogMessage w} {sign : Str}
    (control : DialogActionHandler.isItYouAction message.mAction = true)
    (unsigned : message.mSign = [])
    (signed : other.env.createSign log (marshall message) = .ok sign)
    (stamped : message.mTimestamp = other.env.getTimestamp) :
    Delivered party.platform party.env s (arriving other (message.setSignature sign))
      party.contact.channelMoniker where
  acknowledges := by
    obtain ⟨ackSign, ackSigned⟩ := knows.signs s.log (marshall
      (makeAck party.env.getTimestamp (arriving other (message.setSignature sign))))
    exact .inr (.inr (.inr ⟨ackSign, ackSigned, knows.transmits _ _ _⟩))
  signatureOk := by
    rw [remote]
    exact knows.verifies log message sign control unsigned signed
  recent := knows.recent _ stamped

theorem sendMessage_transmitted (signs : Signs env) (transmits : Transmits env)
    (message : DialogMessage w) (handler : DeliveryHandler) {channelName : Str} {s : Core w}
    (connected : channelName ∈ s.mChannels) :
    ∃ sign wait, env.createSign s.log (marshall message) = .ok sign ∧
      sendMessage env message channelName handler s = (.ok (), ({ s with
        mRepo := s.mRepo.store env.systemClock handler
          (message.mDialogId, message.mSequentialNumber) wait } : Core w).record
            (.handed channelName (message.setSignature sign) true)) := by
  rw [Std.ExtTreeMap.mem_iff_isSome_getElem?, Option.isSome_iff_exists] at connected
  obtain ⟨wait, channel⟩ := connected
  obtain ⟨sign, signed⟩ := signs s.log (marshall message)
  refine ⟨sign, wait, signed, ?_⟩
  rw [sendMessage, Eff.reads_bind, channel]
  simp only
  rw [createSignature, Eff.readsOr_bind, signed]
  simp only [Eff.update_bind]
  rw [channelSendMessage_eq, transmits]
  rfl

variable {p : Platform w}

/-- `createDialog` adds the dialog and transmits the request. -/
theorem createDialog_transmitted (signs : Signs env) (transmits : Transmits env) {contact : Contact}
    {s : Core w} (unknown : s.mDialogStorage.find env.makeUiid = none)
    (registered : s.mContactStorage[contact.id]? = some contact)
    (connected : contact.channelMoniker ∈ s.mChannels) {dialog : Dialog w}
    (shape : dialog = .ofContact env.initSequental env.makeUiid contact.id) :
    ∃ log sign wait, env.createSign log
        (marshall (requestMessage env .createDialog dialog contact [])) = .ok sign ∧
      DialogActionHandler.createDialog p env contact s = (.ok (),
        (({ s.addDialog dialog with
          mRepo := s.mRepo.store env.systemClock (.forCreateDialogRequest dialog.mDialogId contact)
            (dialog.mDialogId, dialog.mThisSequental + 1) wait } : Core w).record
              (.handed contact.channelMoniker ((requestMessage env .createDialog dialog contact
                []).setSignature sign) true)).saveDialog p dialog.makeNextSequental) := by
  have named : dialog.mDialogId = env.makeUiid := by rw [shape]; rfl
  have owner : dialog.mContactId = contact.id := by rw [shape]; rfl
  have allowed : isMessageActionAllowed dialog.mStatus .createDialog = true := by rw [shape]; rfl
  rw [← named] at unknown
  have found : (s.addDialog dialog).mDialogStorage.find dialog.mDialogId = some dialog :=
    DialogStorage.find_put_self dialog
  have contactFound : (s.addDialog dialog).mContactStorage[dialog.mContactId]? = some contact := by
    rw [owner]
    exact registered
  have joined : contact.channelMoniker ∈ (s.addDialog dialog).mChannels := connected
  obtain ⟨sign, wait, signed, sent⟩ := sendMessage_transmitted signs transmits
    (requestMessage env .createDialog dialog contact []) (.forCreateDialogRequest dialog.mDialogId contact)
    joined
  refine ⟨_, sign, wait, signed, ?_⟩
  unfold DialogActionHandler.createDialog DialogActionHandler.sendRequest
  simp only [← shape]
  rw [Eff.bind_ok (addDialog_of_new p (has_eq_false.mpr unknown)),
    Eff.bind_ok (wrapper_of_some p found), Eff.bind_ok (wrapper_of_some p found),
    Eff.bind_ok (getContact_of_some p contactFound),
    Eff.bind_ok (makeMessage_of_allowed p env allowed contact [] _)]
  simp only
  rw [Eff.bind_ok sent]
  rfl

/-- `prepareNotFoundDialog` adds the dialog of a contact and transmits the VERIFY_KEY. -/
theorem answerCreateDialog_transmitted (signs : Signs env) (transmits : Transmits env)
    {message : DialogMessage w} {contact : Contact} {s : Core w}
    (unknown : s.mDialogStorage.find message.mDialogId = none)
    (exports : ExportsKey p env s contact.adress) (connected : contact.channelMoniker ∈ s.mChannels)
    {dialog : Dialog w} (shape : dialog = .ofPeer env.initSequental contact.id message.mDialogId
      message.mSequentialNumber .createRequest) :
    ∃ content log sign wait events s',
      env.createSign log (marshall (requestMessage env .verifyKey dialog contact content)) =
        .ok sign ∧
      DialogActionHandler.answerCreateDialog p env message contact s = (.ok (), s') ∧
      s'.mDialogStorage = s.mDialogStorage.put dialog ∧
      s'.mRepo = s.mRepo.store env.systemClock
        (.forWaitVerificationDialogRequest dialog.mDialogId contact)
        (dialog.mDialogId, dialog.mThisSequental + 1) wait ∧
      transmittedOf events = [] ∧ s'.log = s.log ++ events ++ [.handed contact.channelMoniker
        ((requestMessage env .verifyKey dialog contact content).setSignature sign) true] := by
  have named : dialog.mDialogId = message.mDialogId := by rw [shape]; rfl
  have allowed : isMessageActionAllowed dialog.mStatus .verifyKey = true := by rw [shape]; rfl
  rw [← named] at unknown
  have found : (s.addDialog dialog).mDialogStorage.find message.mDialogId = some dialog := by
    rw [← named]
    exact DialogStorage.find_put_self dialog
  obtain ⟨r, s', exported, step, ⟨⟨content, rfl⟩, -⟩ | ⟨-, refused⟩⟩ :=
    generateAndExportKey_cases p env message.mDialogId contact.adress (s.addDialog dialog)
  swap
  · exact absurd exports refused
  obtain ⟨dialogs, -, -, channels, pending⟩ := step.frame
  obtain ⟨events, keyLog, silent⟩ := step.log
  have joined : contact.channelMoniker ∈ s'.mChannels := by
    rw [channels]
    exact connected
  obtain ⟨sign, wait, signed, sent⟩ := sendMessage_transmitted signs transmits
    (requestMessage env .verifyKey dialog contact content)
    (.forWaitVerificationDialogRequest dialog.mDialogId contact) joined
  generalize final : Core.record _ _ = s₂ at sent
  refine ⟨content, _, sign, wait, .dialogAdded dialog.mDialogId :: events, s₂, signed, ?_, ?_, ?_,
    silent, ?_⟩
  · unfold DialogActionHandler.answerCreateDialog
    simp only [← shape]
    rw [Eff.bind_ok (addDialog_of_new p (has_eq_false.mpr unknown)),
      Eff.bind_ok (wrapper_of_some p found), Eff.bind_ok exported,
      Eff.bind_ok (makeMessage_of_allowed p env allowed contact content s')]
    exact sent
  · rw [← final]
    exact dialogs
  · rw [← final, Core.record, pending]
    rfl
  · rw [← final, Core.record, keyLog, Core.addDialog]
    simp

end

end SecureDialogues
