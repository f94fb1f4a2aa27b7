import SecureDialogues.Protocol.Network

/-!
# The handshake

CREATE_DIALOG, VERIFY_KEY, KEY_VERIFICATION and ACCEPT_DIALOG between two instances that have each
other as contacts. The side that was asked stores the dialog as CREATE_REQUEST, from which the table
of transitions leads to ACCEPTED_WAIT or ABORTED only; the ACK of its VERIFY_KEY asks for
WAIT_KEY_VERIFICAION, and the exception of that callback ends the program.
-/

namespace SecureDialogues

open Text Effect

section

variable {w : Nat}

/-- The dialog is stored and ACTIVE. -/
def IsActive (dialogId : Str) (s : Core w) : Prop :=
  ∃ dialog, s.mDialogStorage.find dialogId = some dialog ∧ dialog.mStatus = .active

/-- Both programs run, no callback having thrown, and once nothing is on its way both have the
dialog as ACTIVE. -/
def Established (dialogId : Str) (net : Duplex (Core w) (DialogMessage w)) : Prop :=
  net.left.alive = true ∧ net.right.alive = true ∧
    (net.Quiet → IsActive dialogId net.left ∧ IsActive dialogId net.right)

/-- `a` has just called `createDialog`. -/
def requested (asker : Party w) (a b : Core w) : Duplex (Core w) (DialogMessage w) :=
  let a' := exec asker.platform asker.env (.createDialog asker.contact) a
  { left := a', right := b, toLeft := [], toRight := transmitted a a' }

/-- Along every order of deliveries the handshake leads to an ACTIVE dialog on both sides. -/
def HandshakeCompletes (asker answerer : Party w) (a b : Core w) : Prop :=
  Duplex.Always (asker.react answerer) (answerer.react asker) (Established asker.env.makeUiid)
    (requested asker a b)

variable {p : Platform w} {env : Env w} {message : DialogMessage w} {channel : Str}

/-! ## ACKs -/

/-- What an ACK leaves alone. -/
structure KeepsCounters (s s' : Core w) : Prop where
  log : s'.log = s.log
  channels : s'.mChannels = s.mChannels
  remote : s'.mRemote = s.mRemote
  counters : ∀ dialogId dialog, s.mDialogStorage.find dialogId = some dialog →
    ∃ after, s'.mDialogStorage.find dialogId = some after ∧
      after.mPeerSequental = dialog.mPeerSequental

namespace KeepsCounters

theorem refl (s : Core w) : KeepsCounters s s :=
  ⟨rfl, rfl, rfl, fun _ dialog found => ⟨dialog, found, rfl⟩⟩

theorem trans {s s' s'' : Core w} (first : KeepsCounters s s') (second : KeepsCounters s' s'') :
    KeepsCounters s s'' where
  log := second.log.trans first.log
  channels := second.channels.trans first.channels
  remote := second.remote.trans first.remote
  counters dialogId dialog found := by
    obtain ⟨between, found', same⟩ := first.counters dialogId dialog found
    obtain ⟨after, found'', same'⟩ := second.counters dialogId between found'
    exact ⟨after, found'', same'.trans same⟩

instance : Std.Refl (KeepsCounters (w := w)) := ⟨refl⟩

instance : IsTrans (Core w) KeepsCounters := ⟨fun _ _ _ => trans⟩

theorem withStatus {s : Core w} {dialog : Dialog w} (status : Status)
    (stored : s.mDialogStorage.find dialog.mDialogId = some dialog) :
    KeepsCounters s (s.saveDialog p (dialog.withStatus status)) where
  log := rfl
  channels := rfl
  remote := rfl
  counters dialogId other found := by
    rw [Core.saveDialog, DialogStorage.find_put]
    by_cases same : (dialog.withStatus status).mDialogId = dialogId
    · rw [if_pos same]
      rw [← same] at found
      obtain rfl : dialog = other := Option.some.inj (stored.symm.trans found)
      exact ⟨_, rfl, rfl⟩
    · rw [if_neg same]
      exact ⟨other, found, rfl⟩

end KeepsCounters

theorem removed_keepsCounters (handler : DeliveryHandler) (s : Core w) :
    Eff.Does KeepsCounters (removed p handler) s fun _ _ => True := by
  have same : KeepsCounters s s := .refl s
  cases handler with
  | messageNotDeliveried owner number =>
    exact ⟨⟨rfl, rfl, rfl, same.counters⟩, trivial⟩
  | dialogAction dialogId mNext mAbortNeed mAddress mChannel =>
    simp only [removed]
    cases found : s.mDialogStorage.find dialogId with
    | none =>
      rw [Eff.Does, Eff.bind_error (wrapper_of_none p found)]
      exact ⟨same, trivial⟩
    | some dialog =>
      obtain rfl := DialogStorage.mDialogId_of_find found
      rw [Eff.Does, Eff.bind_ok (wrapper_of_some p found)]
      cases allowed : isStateTransitionAllowed dialog.mStatus mNext with
      | false =>
        obtain ⟨e, refused⟩ := setStatus_of_refused p allowed s
        rw [Eff.bind_error refused]
        exact ⟨same, trivial⟩
      | true =>
        rw [Eff.bind_ok (setStatus_of_allowed p allowed s)]
        exact ⟨.withStatus mNext found, trivial⟩

theorem removeEntry_keepsCounters (k : NumberedKey w) (s : Core w) :
    KeepsCounters s (removeEntry p k s).2 := by
  rw [removeEntry, Eff.reads_bind]
  cases s.mRepo[k]? with
  | none => exact .refl s
  | some stored =>
    refine ((removed_keepsCounters stored.element s).bind (P := fun _ _ => True)
      (fun _ s' _ _ => ?_) fun _ _ _ _ => trivial).1
    exact ⟨⟨rfl, rfl, rfl, (KeepsCounters.refl s').counters⟩, trivial⟩

/-- The asking side while it waits: nothing of the peer has been taken. -/
structure Asking (asker : Party w) (a s : Core w) : Prop where
  channels : s.mChannels = a.mChannels
  remote : s.mRemote = a.mRemote
  stored : ∃ dialog, s.mDialogStorage.find asker.env.makeUiid = some dialog ∧
    dialog.mPeerSequental = 0

/-- ACKs are received in silence. -/
theorem react_ack {asker answerer : Party w} {a s : Core w} (asking : Asking asker a s)
    (ack : message.mAction = .ack) :
    (asker.react answerer s message).2 = [] ∧ Asking asker a (asker.react answerer s message).1 := by
  have keeps : KeepsCounters s (asker.react answerer s message).1 := by
    unfold Party.react
    by_cases alive : s.alive = true
    · obtain ⟨running, s', outcome, stepped⟩ := exec_dispatch_eq asker.platform asker.env
        (arriving answerer message) asker.contact.channelMoniker alive
      have ack' : (arriving answerer message).mAction = .ack := ack
      rw [dispatch_of_ack ack'] at outcome
      obtain ⟨log, channels, remote, counters⟩ := removeEntry_keepsCounters (p := asker.platform)
        ((arriving answerer message).mDialogId, (arriving answerer message).mSequentialNumber) s
      rw [outcome] at log channels remote counters
      rw [stepped]
      exact ⟨log, channels, remote, counters⟩
    · rw [exec_of_dead _ _ (by simp [alive])]
      exact .refl s
  have silence : transmitted s (asker.react answerer s message).1 = transmittedOf [] :=
    transmitted_eq (by rw [List.append_nil]; exact keeps.log)
  obtain ⟨dialog, found, zero⟩ := asking.stored
  obtain ⟨after, found', same⟩ := keeps.counters _ dialog found
  exact ⟨silence, keeps.channels.trans asking.channels, keeps.remote.trans asking.remote, after,
    found', same.trans zero⟩

/-! ## The request -/

/-- The asking side after `createDialog`, with the CREATE_DIALOG on its way. -/
theorem requested_eq {asker answerer : Party w} {a b : Core w}
    (knows : Knows asker answerer asker.env.makeUiid a) {dialog : Dialog w}
    (shape : dialog = .ofContact asker.env.initSequental asker.env.makeUiid asker.contact.id) :
    ∃ a₁ log sign, Asking asker a a₁ ∧
      asker.env.createSign log
        (marshall (requestMessage asker.env .createDialog dialog asker.contact [])) = .ok sign ∧
      requested asker a b = ⟨a₁, b, [],
        [(requestMessage asker.env .createDialog dialog asker.contact []).setSignature sign]⟩ := by
  obtain ⟨log, sign, wait, signed, outcome⟩ := createDialog_transmitted (p := asker.platform)
    knows.signs knows.transmits knows.unknown knows.registered knows.connected shape
  have stepped := outcome
  generalize final : Core.saveDialog asker.platform _ dialog.makeNextSequental = a₁ at stepped
  have executed : exec asker.platform asker.env (.createDialog asker.contact) a = a₁ := by
    rw [exec, if_pos (.inl knows.alive), perform, stepped]
  refine ⟨a₁, log, sign, ⟨?_, ?_, ?_⟩, signed, ?_⟩
  · rw [← final]
    rfl
  · rw [← final]
    rfl
  · rw [← final]
    refine ⟨dialog.makeNextSequental, ?_, by rw [shape]; rfl⟩
    rw [show asker.env.makeUiid = dialog.makeNextSequental.mDialogId by rw [shape]; rfl]
    exact DialogStorage.find_put_self _
  · unfold requested
    simp only [executed]
    congr 1
    have log : a₁.log = a.log ++ [.dialogAdded dialog.mDialogId,
        .handed asker.contact.channelMoniker ((requestMessage asker.env .createDialog dialog
          asker.contact []).setSignature sign) true] := by
      rw [← final]
      simp [Core.saveDialog, Core.record, Core.addDialog]
    exact transmitted_eq log

/-! ## The answer -/

/-- The answering side once it has sent the VERIFY_KEY, whose delivery is pending. -/
structure Answering (answerer : Party w) (dialogId : Str) (s : Core w) : Prop where
  stored : ∃ dialog, s.mDialogStorage.find dialogId = some dialog ∧ dialog.mStatus = .createRequest
  pending : ∃ delivery mAddress mChannel,
    s.mRepo[(dialogId, answerer.env.initSequental.setWidth w + 1)]? = some delivery ∧
      delivery.element = .dialogAction dialogId .waitKeyVerificaion true mAddress mChannel

/-- The CREATE_DIALOG is acknowledged if its number is not 0, and answered with a VERIFY_KEY. -/
theorem react_createDialog {asker answerer : Party w} {dialogId : Str} {b : Core w}
    (knows : Knows answerer asker dialogId b) {log : List (Event w)} {sign : Str}
    (action : message.mAction = .createDialog) (named : message.mDialogId = dialogId)
    (unsigned : message.mSign = [])
    (signed : asker.env.createSign log (marshall message) = .ok sign)
    (stamped : message.mTimestamp = asker.env.getTimestamp) :
    ∃ b₁ acks dialog contact content log' sign', Answering answerer dialogId b₁ ∧
      (∀ ack ∈ acks, ack.mAction = .ack) ∧ dialog.mDialogId = dialogId ∧
      dialog.mThisSequental = answerer.env.initSequental.setWidth w ∧
      answerer.env.createSign log'
        (marshall (requestMessage answerer.env .verifyKey dialog contact content)) = .ok sign' ∧
      answerer.react asker b (message.setSignature sign) = (b₁,
        acks ++ [(requestMessage answerer.env .verifyKey dialog contact content).setSignature
          sign']) := by
  have control : DialogActionHandler.isItYouAction message.mAction = true := by rw [action]; rfl
  have delivered := knows.delivered rfl control unsigned signed stamped
  have arrivedAction : (arriving asker (message.setSignature sign)).mAction = .createDialog := action
  have arrivedName : (arriving asker (message.setSignature sign)).mDialogId = dialogId := named
  have arrivedFrom : (arriving asker (message.setSignature sign)).mAdress = asker.address := rfl
  unfold Party.react
  generalize arriving asker (message.setSignature sign) = arrived at *
  subst arrivedName
  obtain ⟨contact, rest, known, address, moniker⟩ := knows.contactsAt
  generalize shape : (Dialog.ofPeer answerer.env.initSequental contact.id arrived.mDialogId
    arrived.mSequentialNumber .createRequest : Dialog w) = dialog
  have name : dialog.mDialogId = arrived.mDialogId := by rw [← shape]; rfl
  have number : dialog.mThisSequental = answerer.env.initSequental.setWidth w := by
    rw [← shape]
    rfl
  -- The state in which the handler runs differs from `b` in the log only.
  generalize ackedShape : ackedState answerer.env b arrived answerer.contact.channelMoniker = acked
  have unknown : acked.mDialogStorage.find arrived.mDialogId = none := by
    rw [← ackedShape]
    exact knows.unknown
  have exports : ExportsKey answerer.platform answerer.env acked contact.adress := by
    rw [← ackedShape, address]
    exact knows.exports
  have connected : contact.channelMoniker ∈ acked.mChannels := by
    rw [← ackedShape, moniker]
    exact knows.connected
  obtain ⟨content, log', sign', wait, events, b₁, signed', answered, dialogs, pending, silent, sent⟩ :=
    answerCreateDialog_transmitted (p := answerer.platform) knows.signs knows.transmits unknown
      exports connected shape.symm
  have handled : DialogActionHandler.handle answerer.platform answerer.env arrived
      answerer.contact.channelMoniker acked = (.ok (), b₁) := by
    have contacts : acked.mContactStorage = b.mContactStorage := by
      rw [← ackedShape]
      rfl
    rw [controlHandle_of_unknown unknown, Eff.catching_ok]
    rw [DialogActionHandler.prepareNotFoundDialog, if_neg (by simp [arrivedAction]),
      if_pos arrivedAction, Eff.reads_bind, contacts, arrivedFrom, known]
    exact answered
  obtain ⟨running, s', outcome, stepped⟩ := exec_dispatch_eq answerer.platform answerer.env arrived
    answerer.contact.channelMoniker knows.alive
  rw [dispatch_of_other (by simp [arrivedAction]), dispatchMessage_of_delivered delivered,
    runHandlers_of_control (by rw [arrivedAction]; rfl), ackedShape, handled] at outcome
  obtain rfl : b₁ = s' := outcome
  refine ⟨{ b₁ with alive := running }, transmittedOf (ackEvents answerer.env b arrived
    answerer.contact.channelMoniker), dialog, contact, content, log', sign', ⟨?_, ?_⟩,
    transmittedOf_notes (ackEvents_notes _ _ _ _), name, number, signed', ?_⟩
  · refine ⟨dialog, ?_, by rw [← shape]; rfl⟩
    rw [dialogs, ← name]
    exact DialogStorage.find_put_self dialog
  · have free : acked.mRepo[(dialog.mDialogId, dialog.mThisSequental + 1)]? = none := by
      rw [← ackedShape, name]
      exact knows.idle _
    have waiting := TimeoutedRepository.getElem?_store acked.mRepo answerer.env.systemClock
      (.forWaitVerificationDialogRequest dialog.mDialogId contact)
      (dialog.mDialogId, dialog.mThisSequental + 1) (dialog.mDialogId, dialog.mThisSequental + 1) wait
    rw [if_pos ⟨rfl, free⟩, ← pending, name, number] at waiting
    exact ⟨_, contact.adress, contact.channelMoniker, waiting, rfl⟩
  · have log : b₁.log = b.log ++ (ackEvents answerer.env b arrived answerer.contact.channelMoniker ++
        (events ++ [.handed contact.channelMoniker ((requestMessage answerer.env .verifyKey dialog
          contact content).setSignature sign') true])) := by
      rw [sent, ← ackedShape]
      simp [ackedState]
    rw [stepped]
    refine Prod.ext rfl (Eq.trans (transmitted_eq log) ?_)
    rw [transmittedOf_append, transmittedOf_append, silent]
    rfl

/-! ## The VERIFY_KEY -/

/-- The VERIFY_KEY is acknowledged first of all, if its number is not 0; with the number 0 it is
not newer than the counter of the new dialog. -/
theorem react_verifyKey {asker answerer : Party w} {a s : Core w}
    (knows : Knows asker answerer asker.env.makeUiid a) (asking : Asking asker a s)
    (alive : s.alive = true) {log : List (Event w)} {sign : Str}
    (action : message.mAction = .verifyKey) (named : message.mDialogId = asker.env.makeUiid)
    (unsigned : message.mSign = [])
    (signed : answerer.env.createSign log (marshall message) = .ok sign)
    (stamped : message.mTimestamp = answerer.env.getTimestamp) :
    (0 < message.mSequentialNumber → ∃ s' ack more,
      asker.react answerer s (message.setSignature sign) = (s', ack :: more) ∧ ack.mAction = .ack ∧
        ack.mDialogId = message.mDialogId ∧ ack.mSequentialNumber = message.mSequentialNumber) ∧
    (¬ 0 < message.mSequentialNumber → ∃ s',
      asker.react answerer s (message.setSignature sign) = (s', [])) := by
  have control : DialogActionHandler.isItYouAction message.mAction = true := by rw [action]; rfl
  have delivered := knows.delivered asking.remote control unsigned signed stamped
  have arrivedControl : DialogActionHandler.isItYouAction
    (arriving answerer (message.setSignature sign)).mAction = true := control
  have arrivedAction : (arriving answerer (message.setSignature sign)).mAction = .verifyKey := action
  have arrivedName : (arriving answerer (message.setSignature sign)).mDialogId =
    message.mDialogId := rfl
  have arrivedNumber : (arriving answerer (message.setSignature sign)).mSequentialNumber =
    message.mSequentialNumber := rfl
  unfold Party.react
  generalize arriving answerer (message.setSignature sign) = arrived at *
  obtain ⟨running, s', outcome, stepped⟩ := exec_dispatch_eq asker.platform asker.env arrived
    asker.contact.channelMoniker alive
  rw [dispatch_of_other (by simp [arrivedAction]), dispatchMessage_of_delivered delivered,
    runHandlers_of_control arrivedControl] at outcome
  rw [stepped]
  have connected : asker.contact.channelMoniker ∈ s.mChannels := asking.channels ▸ knows.connected
  constructor
  · intro positive
    obtain ⟨ackSign, ackSigned⟩ := knows.signs s.log (marshall (makeAck asker.env.getTimestamp arrived))
    obtain ⟨moves, -⟩ := controlHandle_does rfl arrivedControl delivered
      (ackedState_noted asker.env s arrived asker.contact.channelMoniker)
    obtain ⟨events, more⟩ := moves.log
    rw [outcome] at more
    have due : ackEvents asker.env s arrived asker.contact.channelMoniker =
        [.handed asker.contact.channelMoniker
          ((makeAck asker.env.getTimestamp arrived).setSignature ackSign) true] := by
      rw [ackEvents, if_pos ⟨by simp [arrivedAction], arrivedNumber ▸ positive, connected⟩, ackSigned]
    have log : s'.log = s.log ++ (.handed asker.contact.channelMoniker
        ((makeAck asker.env.getTimestamp arrived).setSignature ackSign) true :: events) := by
      rw [more, ackedState, due, List.append_assoc]
      rfl
    exact ⟨_, _, _, Prod.ext rfl (transmitted_eq log), rfl, arrivedName, arrivedNumber⟩
  · intro zero
    obtain ⟨dialog, found, counter⟩ := asking.stored
    have none : ackEvents asker.env s arrived asker.contact.channelMoniker = [] := by
      rw [ackEvents, if_neg fun due => zero (arrivedNumber ▸ due.2.1)]
    have stored : (ackedState asker.env s arrived asker.contact.channelMoniker).mDialogStorage.find
        arrived.mDialogId = some dialog := by
      rw [arrivedName, named]
      exact found
    have old : ¬ dialog.mPeerSequental < arrived.mSequentialNumber := by
      rw [counter, arrivedNumber]
      exact zero
    rw [controlHandle_of_old stored old] at outcome
    have log : s'.log = s.log ++ [] := by
      rw [← outcome, ackedState, none]
    exact ⟨_, Prod.ext rfl (transmitted_eq log)⟩

/-! ## The ACK of the VERIFY_KEY -/

/-- Its callback asks for a transition that the table does not have. -/
theorem react_ack_of_verifyKey {asker answerer : Party w} {dialogId : Str} {s : Core w}
    (answering : Answering answerer dialogId s) (action : message.mAction = .ack)
    (named : message.mDialogId = dialogId)
    (number : message.mSequentialNumber = answerer.env.initSequental.setWidth w + 1) :
    (answerer.react asker s message).1.alive = false := by
  unfold Party.react
  by_cases alive : s.alive = true
  swap
  · rw [exec_of_dead _ _ (by simp [alive])]
    simpa using alive
  obtain ⟨dialog, found, status⟩ := answering.stored
  obtain ⟨delivery, mAddress, mChannel, waiting, element⟩ := answering.pending
  have refused : isStateTransitionAllowed dialog.mStatus .waitKeyVerificaion = false := by
    rw [status]
    rfl
  obtain ⟨e, thrown⟩ := setStatus_of_refused answerer.platform refused s
  have callback : removed answerer.platform delivery.element s = (.error (.thrown e), s) := by
    rw [element, removed, Eff.bind_ok (wrapper_of_some _ found), Eff.bind_error thrown]
  have entry : removeEntry answerer.platform ((arriving asker message).mDialogId,
      (arriving asker message).mSequentialNumber) s = (.error (.thrown e), s) := by
    rw [show (arriving asker message).mDialogId = dialogId from named,
      show (arriving asker message).mSequentialNumber = _ from number, removeEntry, Eff.reads_bind,
      waiting]
    simp only
    rw [Eff.bind_error callback]
  have ack : (arriving asker message).mAction = .ack := action
  have ends : dispatch answerer.platform answerer.env (arriving asker message)
      answerer.contact.channelMoniker s = (.error .terminated, s) := by
    rw [dispatch, if_pos ack, Eff.noexcept, Eff.bind_error entry]
  rw [exec, if_pos (.inl alive), perform, ends]

/-- Whatever the numbers and the keys, some order of deliveries ends the program that was asked or
leaves its dialog as CREATE_REQUEST. -/
theorem handshake_never_completes {asker answerer : Party w} {a b : Core w}
    (knowsAnswerer : Knows asker answerer asker.env.makeUiid a)
    (knowsAsker : Knows answerer asker asker.env.makeUiid b) :
    ¬ HandshakeCompletes asker answerer a b := by
  intro completes
  generalize shape : (Dialog.ofContact asker.env.initSequental asker.env.makeUiid
    asker.contact.id : Dialog w) = dialog
  have named : dialog.mDialogId = asker.env.makeUiid := by rw [← shape]; rfl
  obtain ⟨a₁, log, sign, asking, signed, opened⟩ := requested_eq knowsAnswerer shape.symm
  rw [HandshakeCompletes, opened] at completes
  obtain ⟨b₁, acks, dialog', contact, content, log', sign', answering, areAcks, named', number,
    signed', answer⟩ := react_createDialog knowsAsker rfl named rfl signed rfl
  have answered := completes.receiveRight answer
  rw [List.nil_append] at answered
  obtain ⟨a₂, asking', waiting⟩ := answered.silent (I := Asking asker a)
    (M := fun message => message.mAction = .ack) (fun _ _ inv ack => react_ack inv ack) areAcks asking
  obtain ⟨acknowledged, dropped⟩ := react_verifyKey knowsAnswerer asking' waiting.now.1 rfl named' rfl
    signed' rfl
  by_cases positive : 0 < (requestMessage answerer.env .verifyKey dialog' contact
    content).mSequentialNumber
  · obtain ⟨a₃, ack, more, reaction, isAck, ackName, ackNumber⟩ := acknowledged positive
    have dead : (answerer.react asker b₁ ack).1.alive = false :=
      react_ack_of_verifyKey answering isAck (ackName.trans named')
        (ackNumber.trans (congrArg (· + 1) number))
    have last := ((waiting.receiveLeft reaction).receiveRight rfl).now.2.1
    exact absurd (last.symm.trans dead) (by simp)
  · obtain ⟨a₃, reaction⟩ := dropped positive
    obtain ⟨-, active⟩ := (waiting.receiveLeft reaction).now.2.2 ⟨rfl, rfl⟩
    obtain ⟨stored, found, status⟩ := active
    obtain ⟨requestedDialog, found', createRequest⟩ := answering.stored
    obtain rfl : requestedDialog = stored := Option.some.inj (found'.symm.trans found)
    rw [createRequest] at status
    cases status

end

/-! ## Two sample instances -/

namespace Sample

/-- The installation of the other samples, asking the peer. -/
def asker : Party 64 where
  platform := platform
  env := env
  address := str "own@mail"
  contact := peer

/-- The peer, with numbers and an identifier of its own. -/
def answerer : Party 64 where
  platform := platform
  env := { env with initSequental := 20, makeUiid := str "other dialog" }
  address := peer.adress
  contact := {
    channelMoniker := channel
    name := str "Asker"
    adress := str "own@mail"
    id := str "asker"
    publicKey := str "asker key" }

/-- A program that has the other one as a contact over a connected channel. -/
def joined (party : Party 64) : Core 64 :=
  run [(env, .saveContact party.contact), (env, .addChannel channel 60)]

theorem verifies {s : Core 64} {sender : Party 64} {key : PublicKey}
    (known : getRemoteByAdress platform s.mRemote sender.address = .ok key)
    (log : List (Event 64)) {message : DialogMessage 64} {sign : Str}
    (signed : env.createSign log (marshall message) = .ok sign) :
    isSignatureOk platform s.mRemote (arriving sender (message.setSignature sign)) = .ok true := by
  obtain rfl : str "c2lnbg==" = sign := Except.ok.inj signed
  rw [isSignatureOk]
  simp only [arriving, known]
  rfl

theorem recent {message : DialogMessage 64} (stamped : message.mTimestamp = env.getTimestamp) :
    ¬ isExpired env message := by
  unfold isExpired
  rw [stamped]
  decide +kernel

end Sample

/-- The two sample instances. -/
theorem sample_handshake_never_completes :
    ¬ HandshakeCompletes Sample.asker Sample.answerer (Sample.joined Sample.asker)
      (Sample.joined Sample.answerer) := by
  have askerKey : getRemoteByAdress Sample.platform (Sample.joined Sample.asker).mRemote
      Sample.answerer.address = .ok (str "peer key") := by decide +kernel
  have answererKey : getRemoteByAdress Sample.platform (Sample.joined Sample.answerer).mRemote
      Sample.asker.address = .ok (str "asker key") := by decide +kernel
  refine handshake_never_completes ?_ ?_
  · refine ⟨by decide +kernel, by decide +kernel, rfl, by decide +kernel, fun _ _ => ⟨_, rfl⟩,
      fun _ _ _ => rfl, fun log _ _ _ _ signed => Sample.verifies askerKey log signed,
      fun _ stamped => Sample.recent stamped, ⟨_, _, _, askerKey, rfl, rfl⟩, by decide +kernel,
      fun _ => ?_⟩
    have none : (Sample.joined Sample.asker).mRepo = ∅ := by decide +kernel
    simp [none]
  · refine ⟨by decide +kernel, by decide +kernel, rfl, by decide +kernel, fun _ _ => ⟨_, rfl⟩,
      fun _ _ _ => rfl, fun log _ _ _ _ signed => Sample.verifies answererKey log signed,
      fun _ stamped => Sample.recent stamped, ⟨_, _, _, answererKey, rfl, rfl⟩, by decide +kernel,
      fun _ => ?_⟩
    have none : (Sample.joined Sample.answerer).mRepo = ∅ := by decide +kernel
    simp [none]

/-- CREATE_DIALOG, its ACK and the VERIFY_KEY arrive; the ACK of the VERIFY_KEY ends the program. -/
theorem handshake_fails :
    ¬ HandshakeCompletes Sample.asker Sample.answerer (Sample.joined Sample.asker)
      (Sample.joined Sample.answerer) := by
  intro completes
  have running := (completes [.right, .left, .left, .right]).2.1
  revert running
  decide +kernel

end SecureDialogues
