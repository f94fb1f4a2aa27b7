import SecureDialogues.Stepwise.Discipline

/-!
# The actions of the messages that are sent

Which messages an operation hands to a channel, each with the state at that moment, and the table
`isMessageActionAllowed`. All senders respect the table but one: the expiry of a delivery sends its
ABORT without a look at the status of the dialog, which may have ended in the meantime. A
CONTACT_DISCOVER is in no row of the table; its identifier is random.
-/

namespace SecureDialogues

open Text Effect

section

variable {w : Nat}

/-! ## The notes of an uninterrupted operation are true -/

/-- What was seen of a dialog is what is stored. -/
def Sight.IsTrue : Sight → Option (Dialog w) → Prop
  | .unseen, _ => True
  | .absent, stored => stored = none
  | .seen status, stored => stored.map (·.mStatus) = some status

instance : (sight : Sight) → (stored : Option (Dialog w)) → Decidable (sight.IsTrue stored)
  | .unseen, _ => isTrue trivial
  | .absent, stored => inferInstanceAs (Decidable (stored = none))
  | .seen status, stored => inferInstanceAs (Decidable (stored.map (·.mStatus) = some status))

def Notes.AreTrue (notes : Notes) (s : Core w) : Prop :=
  ∀ dialogId, (notes dialogId).IsTrue (s.mDialogStorage.find dialogId)

theorem Notes.AreTrue.congr {notes : Notes} {s s' : Core w} (holds : notes.AreTrue s)
    (same : s'.mDialogStorage = s.mDialogStorage) : notes.AreTrue s' := by
  intro dialogId
  rw [same]
  exact holds dialogId

theorem Notes.AreTrue.set {notes : Notes} {s s' : Core w} (holds : notes.AreTrue s)
    {dialogId : Str} {sight : Sight}
    (others : ∀ other, dialogId ≠ other →
      s'.mDialogStorage.find other = s.mDialogStorage.find other)
    (now : sight.IsTrue (s'.mDialogStorage.find dialogId)) :
    (notes.set dialogId sight).AreTrue s' := by
  intro other
  by_cases same : dialogId = other
  · rw [← same, Notes.set_self]
    exact now
  · have kept : notes.set dialogId sight other = notes other :=
      Function.update_of_ne (Ne.symm same) _ _
    rw [kept, others other same]
    exact holds other

/-- Nothing is known at first. -/
theorem Notes.areTrue_unseen (s : Core w) : Notes.AreTrue (fun _ => .unseen) s :=
  fun _ => trivial

variable (p : Platform w) (env : Env w)

theorem find_put_of_ne {storage : DialogStorage w} {dialog : Dialog w} {other : Str}
    (different : dialog.mDialogId ≠ other) :
    (storage.put dialog).find other = storage.find other := by
  rw [DialogStorage.find_put, if_neg different]

/-- A dialog that is written is seen with its status. -/
theorem Notes.AreTrue.put {notes : Notes} {s s' : Core w} (holds : notes.AreTrue s)
    {dialog : Dialog w} (written : s'.mDialogStorage = s.mDialogStorage.put dialog) :
    (notes.set dialog.mDialogId (.seen dialog.mStatus)).AreTrue s' := by
  apply holds.set
  · intro other different
    rw [written]
    exact find_put_of_ne different
  · rw [written, DialogStorage.find_put_self]
    rfl

/-- Each step of an uninterrupted operation has a possible outcome and keeps the notes true. -/
theorem exec_keeps_notes {rules : Rules} (notes : Notes) (a : Atom w) (s : Core w)
    (holds : notes.AreTrue s) (_ : (discipline rules).guard notes a) :
    (discipline rules).possible notes a (a.exec p env s).1 ∧
      ((discipline rules).note notes a (a.exec p env s).1).AreTrue (a.exec p env s).2 := by
  cases a with
  | wrapper dialogId =>
    cases found : s.mDialogStorage.find dialogId with
    | none =>
      simp only [Atom.exec, wrapper_of_none p found]
      exact ⟨trivial, holds⟩
    | some dialog =>
      simp only [Atom.exec, wrapper_of_some p found]
      refine ⟨DialogStorage.mDialogId_of_find found, ?_⟩
      apply holds.set
      · intro other _
        rfl
      · rw [found]
        rfl
  | hasDialog dialogId =>
    refine ⟨trivial, ?_⟩
    show ((discipline rules).note notes (.hasDialog dialogId)
      (.ok (s.mDialogStorage.has dialogId))).AreTrue s
    cases found : s.mDialogStorage.has dialogId with
    | true => exact holds
    | false =>
      apply holds.set
      · intro other _
        rfl
      · exact has_eq_false.mp found
  | addDialog dialog =>
    refine ⟨trivial, ?_⟩
    cases taken : s.mDialogStorage.has dialog.mDialogId with
    | true =>
      simp only [Atom.exec, addDialog_of_has p taken]
      exact holds
    | false =>
      simp only [Atom.exec, addDialog_of_new p taken]
      exact holds.put rfl
  | saveDialog dialog => exact ⟨trivial, holds.put rfl⟩
  | removeDialog dialogId =>
    refine ⟨trivial, ?_⟩
    apply holds.set
    · intro other different
      show (s.mDialogStorage.remove dialogId).find other = _
      rw [DialogStorage.find_remove, if_neg different]
    · show (s.mDialogStorage.remove dialogId).find dialogId = none
      rw [DialogStorage.find_remove, if_pos rfl]
  | _ => exact ⟨trivial, holds.congr (Atom.exec_mDialogStorage p env rfl s)⟩

/-! ## Operations and what they send -/

/-- An operation of an instance: a step of its runs, or the user's publication of the own contact
data (`DiscoverContactAgent::discover`, `discovercontactagent.cpp:40-52`). -/
inductive Operation (w : Nat) where
  | ofInput (input : Input w)
  | discover (number : BitVec 32) (name address channel : Str)
  deriving DecidableEq

/-- `DiscoverContactAgent::discover`. -/
def DiscoverContactAgent.discover (number : BitVec 32) (name address channel : Str) : M w Unit := do
  let key ← Eff.readsOr fun _ => p.exportPublicKey
  sendAndForget env (discoverMessage env number name key address) channel

/-- `DiscoverContactAgent::discover` by its steps. -/
def Steps.discover (number : BitVec 32) (name address channel : Str) : Steps w Unit := do
  let key ← Prog.lift p.exportPublicKey
  sendAndForget (DiscoverContactAgent.discoverMessage env number name key address) channel

/-- The steps of the operations that look at dialogs or send messages. -/
def Operation.steps : Operation w → Option (Steps w Unit)
  | .ofInput (.createDialog contact) => some (Steps.DialogActionHandler.createDialog p env contact)
  | .ofInput (.closeDialog dialogId) => some (Steps.DialogActionHandler.closeDialog p env dialogId)
  | .ofInput (.abortDialog dialogId) => some (Steps.DialogActionHandler.abortDialog p env dialogId)
  | .ofInput (.removeDialog dialogId) => some (Steps.DialogActionHandler.removeDialog p env dialogId)
  | .ofInput (.setActiveDialog dialogId) => some (Steps.step (.setActiveDialog dialogId))
  | .ofInput (.sendMessage text) => some (Steps.MessageActionHandler.sendMessage p env text)
  | .ofInput (.dispatch message channelName) => some (Steps.dispatch p env message channelName)
  | .ofInput (.expire k) => some (Steps.expireEntry p env k)
  | .ofInput (.saveContact _) | .ofInput (.addChannel _ _) | .ofInput (.removeChannel _)
  | .ofInput .restart => none
  | .discover number name address channel =>
    some (Steps.discover p env number name address channel)

/-- The program behind an operation. -/
def Operation.perform : Operation w → M w Unit
  | .ofInput input => SecureDialogues.perform p env input
  | .discover number name address channel =>
    DiscoverContactAgent.discover p env number name address channel

/-- Run in one go, the steps are the operation. -/
theorem Operation.run_steps {operation : Operation w} {m : Steps w Unit}
    (steps : operation.steps p env = some m) :
    m.run (Atom.exec p env) = operation.perform p env := by
  cases operation with
  | ofInput input =>
    cases input <;> cases steps <;>
      simp [Operation.perform, SecureDialogues.perform, Atom.exec]
  | discover number name address channel =>
    cases steps
    simp [Operation.perform, Steps.discover, DiscoverContactAgent.discover]

/-- What the rules ask of an input whose program is to keep them. -/
def Rules.Permit (rules : Rules) : Input w → Prop
  | .sendMessage _ => ¬ rules.quiet
  | .removeDialog _ => ¬ rules.lasting
  | .expire _ => ¬ rules.quiet ∧ ¬ rules.checked
  | .dispatch message _ =>
    (message.mAction = .ack → ¬ rules.quiet) ∧ (message.mAction ≠ .ack → rules.acknowledges)
  | _ => True

theorem Operation.keeps_ofInput {rules : Rules} {input : Input w} {m : Steps w Unit}
    (steps : Operation.steps p env (.ofInput input) = some m) (permitted : rules.Permit input) :
    Keeps rules (fun _ => .unseen) m := by
  cases input with
  | createDialog contact =>
    cases steps
    exact Steps.DialogActionHandler.keeps_createDialog p env contact
  | closeDialog dialogId =>
    cases steps
    exact Steps.DialogActionHandler.keeps_closeDialog p env dialogId
  | abortDialog dialogId =>
    cases steps
    exact Steps.DialogActionHandler.keeps_abortDialog p env dialogId
  | removeDialog dialogId =>
    cases steps
    exact Steps.DialogActionHandler.keeps_removeDialog p env permitted dialogId
  | setActiveDialog dialogId =>
    cases steps
    exact silentAtom.keeps trivial fun _ => rfl
  | sendMessage text =>
    cases steps
    exact Steps.MessageActionHandler.keeps_sendMessage p env permitted text
  | dispatch message channelName =>
    cases steps
    exact Steps.keeps_dispatch p env channelName permitted.1 permitted.2
  | expire k =>
    cases steps
    exact Steps.keeps_expireEntry p env permitted.1 permitted.2 k
  | saveContact | addChannel | removeChannel | restart => cases steps

/-- What every step that the rules permit keeps is kept by an operation that keeps to the rules. -/
theorem run_of_keeps {rules : Rules} {R : Core w → Core w → Prop} (refl : ∀ s, R s s)
    (trans : ∀ {s s' s''}, R s s' → R s' s'' → R s s'')
    (atom : ∀ {notes : Notes} {a : Atom w}, (discipline rules).guard notes a →
      ∀ s, R s (a.exec p env s).2)
    {m : Steps w Unit} (keeps : Keeps rules (fun _ => .unseen) m) (s : Core w) :
    R s (m.run (Atom.exec p env) s).2 := by
  have step : ∀ notes (a : Atom w) s', Notes.AreTrue notes s' ∧ R s s' →
      (discipline rules).guard notes a →
        (discipline rules).possible notes a (a.exec p env s').1 ∧
          Notes.AreTrue ((discipline rules).note notes a (a.exec p env s').1)
            (a.exec p env s').2 ∧ R s (a.exec p env s').2 := by
    intro notes a s' before guard
    obtain ⟨possible, truth⟩ := exec_keeps_notes p env notes a s' before.1 guard
    exact ⟨possible, truth, trans before.2 (atom guard s')⟩
  obtain ⟨-, ⟨-, kept⟩, -⟩ := Prog.Obeys.run (I := fun notes s' => Notes.AreTrue notes s' ∧ R s s')
    step keeps ⟨Notes.areTrue_unseen s, refl s⟩
  exact kept

theorem perform_of_keeps {rules : Rules} {R : Core w → Core w → Prop} (refl : ∀ s, R s s)
    (trans : ∀ {s s' s''}, R s s' → R s' s'' → R s s'')
    (atom : ∀ {notes : Notes} {a : Atom w}, (discipline rules).guard notes a →
      ∀ s, R s (a.exec p env s).2)
    {input : Input w} {m : Steps w Unit}
    (steps : Operation.steps p env (.ofInput input) = some m) (permitted : rules.Permit input)
    (s : Core w) : R s (perform p env input s).2 := by
  have same : m.run (Atom.exec p env) = perform p env input := Operation.run_steps p env steps
  rw [← same]
  exact run_of_keeps p env refl trans atom (Operation.keeps_ofInput p env steps permitted) s

/-- The other inputs change the contacts with their keys or the channels. -/
theorem perform_of_none {input : Input w}
    (steps : Operation.steps p env (.ofInput input) = none) (running : input ≠ .restart)
    (s : Core w) : ∃ contacts remote channels, (perform p env input s).2 =
      { s with mContactStorage := contacts, mRemote := remote, mChannels := channels } := by
  cases input with
  | saveContact contact =>
    simp only [perform, saveContact, updateContact, Eff.bind_apply, Eff.update, Eff.readsOr]
    cases p.loadPublicKey contact.publicKey with
    | ok key => exact ⟨_, _, _, rfl⟩
    | error e => exact ⟨_, _, _, rfl⟩
  | addChannel name waitAckInterval =>
    rw [perform, addChannel, Eff.reads_bind]
    split
    · exact ⟨_, _, _, rfl⟩
    · exact ⟨_, _, _, rfl⟩
  | removeChannel name => exact ⟨_, _, _, rfl⟩
  | restart => exact absurd rfl running
  | _ => cases steps

/-- The state after an operation of a running program. -/
def Operation.next (s : Core w) (step : Env w × Operation w) : Core w :=
  match step.2 with
  | .ofInput input => exec p step.1 input s
  | .discover number name address channel =>
    if s.alive then (DiscoverContactAgent.discover p step.1 number name address channel s).2 else s

/-- In the state `s'` within its run from `s`, the operation hands the message to a channel. -/
def Operation.HandsOver (s : Core w) (operation : Operation w) (s' : Core w)
    (message : DialogMessage w) : Prop :=
  s.alive = true ∧ ∃ m channel, operation.steps p env = some m ∧
    (s', Atom.transmit channel message) ∈ m.visits (Atom.exec p env) s

/-- What is sent for a stored dialog, ACKs apart, is allowed in the status stored at that moment. -/
def Operation.SendsAllowed (s : Core w) (step : Env w × Operation w) : Prop :=
  ∀ s' message, step.2.HandsOver p step.1 s s' message → message.mAction ≠ .ack →
    ∀ dialog, s'.mDialogStorage.find message.mDialogId = some dialog →
      isMessageActionAllowed dialog.mStatus message.mAction = true

/-- The sends are checked. -/
def tableRules : Rules where
  checked := True
  quiet := False
  lasting := False
  acknowledges := True

/-! ## The two senders without a look at the table -/

/-- The message gets as far as the channel: it is signed and the channel is connected. -/
def ReachesChannel (s : Core w) (message : DialogMessage w) (channel : Str) : Prop :=
  channel ∈ s.mChannels ∧ ∃ sign, env.createSign s.log (marshall message) = .ok sign

variable {p env}

theorem visits_sendAndForget {message sent : DialogMessage w} {channelName channel : Str}
    {s s' : Core w} :
    (s', Atom.transmit channel sent) ∈
        (Steps.sendAndForget message channelName).visits (Atom.exec p env) s ↔
      s' = s ∧ channel = channelName ∧ channelName ∈ s.mChannels ∧
        ∃ sign, env.createSign s.log (marshall message) = .ok sign ∧
          sent = message.setSignature sign := by
  unfold Steps.sendAndForget
  rw [Prog.visits_bind, Prog.visits_atom, Prog.run_atom]
  simp only [Atom.exec, createSignature, Eff.readsOr]
  cases env.createSign s.log (marshall message) with
  | error e => simp
  | ok sign =>
    simp only [Prog.visits_bind, Prog.visits_atom, Prog.run_atom, Atom.exec, Eff.reads]
    cases found : s.mChannels[channelName]? with
    | none =>
      have missing : channelName ∉ s.mChannels := by simpa using found
      simp [missing]
    | some wait =>
      have connected : channelName ∈ s.mChannels := by
        rw [Std.ExtTreeMap.mem_iff_isSome_getElem?, found]
        rfl
      simp [Steps.channelSendMessage, Prog.visits_atom, connected, and_comm, and_left_comm]

variable (env) in
/-- The ABORT of an expired delivery. -/
def expiryAbort (dialog : Dialog w) (mAddress : Str) : DialogMessage w :=
  makeAbort env.getTimestamp dialog.mDialogId mAddress dialog.makeNextSequental.mThisSequental

theorem visits_setStatus_save {dialog : Dialog w} {status : Status} {message : DialogMessage w}
    {channel : Str} {s s' : Core w} :
    (s', Atom.transmit channel message) ∉ (do
      let dialog ← Steps.setStatus p dialog status
      Steps.step (.saveDialog dialog)).visits (Atom.exec p env) s := by
  unfold Steps.setStatus
  split
  · intro member
    cases member with
    | tail _ later => cases later
  · intro member
    cases member

theorem visits_timeouted {dialogId mAddress mChannel channel : Str} {mNext : Status}
    {sent : DialogMessage w} {s s' : Core w} :
    (s', Atom.transmit channel sent) ∈ (Steps.timeouted p env
        (.dialogAction dialogId mNext true mAddress mChannel)).visits (Atom.exec p env) s ↔
      ∃ dialog, s.mDialogStorage.find dialogId = some dialog ∧ s' = s ∧ channel = mChannel ∧
        mChannel ∈ s.mChannels ∧ ∃ sign,
          env.createSign s.log (marshall (expiryAbort env dialog mAddress)) = .ok sign ∧
            sent = (expiryAbort env dialog mAddress).setSignature sign := by
  simp only [Steps.timeouted, if_true]
  rw [Prog.visits_bind, Prog.visits_atom, Prog.run_atom]
  cases found : s.mDialogStorage.find dialogId with
  | none =>
    simp only [Atom.exec, wrapper_of_none p found]
    simp
  | some dialog =>
    simp only [Atom.exec, wrapper_of_some p found]
    have silent : ∀ s, (s', Atom.transmit channel sent) ∉ (do
        let dialog ← pure dialog.makeNextSequental
        Steps.step (.notify .error (p.text
          "Dialog with {} was removed because participant didn't respond" [mAddress]))
        let dialog ← Steps.setStatus p dialog .aborted
        Steps.step (.saveDialog dialog)).visits (Atom.exec p env) s := by
      intro s member
      cases member with
      | tail _ later => exact visits_setStatus_save later
    rw [Prog.visits_bind, List.mem_append, List.mem_append, visits_sendAndForget]
    constructor
    · rintro (first | ⟨same, sameChannel, connected, sign, signed, rfl⟩ | rest)
      · cases first with
        | tail _ later => cases later
      · exact ⟨dialog, rfl, same, sameChannel, connected, sign, signed, rfl⟩
      · split at rest
        · exact absurd rest (silent _)
        · cases rest
    · rintro ⟨other, this, same, sameChannel, connected, sign, signed, rfl⟩
      obtain rfl := Option.some.inj this
      exact .inr (.inl ⟨same, sameChannel, connected, sign, signed, rfl⟩)

theorem visits_expireEntry {k : NumberedKey w} {handler : DeliveryHandler}
    {sent : DialogMessage w} {channel : Str} {s s' : Core w}
    (late : s.mRepo.overdue env.systemClock k = some handler) :
    (s', Atom.transmit channel sent) ∈ (Steps.expireEntry p env k).visits (Atom.exec p env) s ↔
      (s', Atom.transmit channel sent) ∈
        (Steps.timeouted p env handler).visits (Atom.exec p env) s := by
  unfold Steps.expireEntry
  rw [Prog.visits_noexcept, Prog.visits_bind, Prog.visits_atom, Prog.run_atom]
  simp only [Atom.exec, Eff.reads, late]
  rw [Prog.visits_bind, List.mem_append, List.mem_append]
  constructor
  · rintro (first | sent | rest)
    · cases first with
      | tail _ later => cases later
    · exact sent
    · split at rest
      · cases rest with
        | tail _ later => cases later
      · cases rest
  · intro sent
    exact .inr (.inl sent)

variable (p) in
/-- What keeps a step to the table: an expired request sends no ABORT for a dialog that has ended,
and the random identifier of a CONTACT_DISCOVER is not that of a stored dialog. -/
def Operation.Respects (s : Core w) (step : Env w × Operation w) : Prop :=
  s.alive = true → match step.2 with
    | .ofInput (.expire k) => ∀ dialogId mNext mAddress mChannel dialog,
      s.mRepo.overdue step.1.systemClock k =
          some (.dialogAction dialogId mNext true mAddress mChannel) →
        s.mDialogStorage.find dialogId = some dialog → dialog.mStatus.isEnded = true →
          ¬ ReachesChannel step.1 s (expiryAbort step.1 dialog mAddress) mChannel
    | .discover number name address channel => ∀ key, p.exportPublicKey = .ok key →
      s.mDialogStorage.has step.1.makeUiid = true →
        ¬ ReachesChannel step.1 s
          (DiscoverContactAgent.discoverMessage step.1 number name key address) channel
    | _ => True

/-- A program that keeps the discipline with its sends checked respects the table. -/
theorem allowed_of_keeps {m : Steps w Unit} (keeps : Keeps tableRules (fun _ => .unseen) m)
    {s s' : Core w} {channel : Str} {message : DialogMessage w}
    (visit : (s', Atom.transmit channel message) ∈ m.visits (Atom.exec p env) s)
    (notAck : message.mAction ≠ .ack) {dialog : Dialog w}
    (found : s'.mDialogStorage.find message.mDialogId = some dialog) :
    isMessageActionAllowed dialog.mStatus message.mAction = true := by
  obtain ⟨notes, holds, allowed⟩ := Prog.Obeys.visits
    (fun notes a s holds => exec_keeps_notes p env notes a s holds) keeps
    (Notes.areTrue_unseen s) _ visit
  have stored := holds message.mDialogId
  rcases allowed.1 trivial with ack | absent | ⟨status, seen, permitted⟩
  · exact absurd ack notAck
  · rw [absent, found] at stored
    cases stored
  · rw [seen, found] at stored
    have same : dialog.mStatus = status := Option.some.inj stored
    rw [same]
    exact permitted

theorem sendsAllowed_of_keeps {s : Core w} {operation : Operation w} {m : Steps w Unit}
    (steps : operation.steps p env = some m) (keeps : Keeps tableRules (fun _ => .unseen) m) :
    Operation.SendsAllowed p s (env, operation) := by
  rintro s' message ⟨-, m', channel, steps', visit⟩ notAck dialog found
  obtain rfl := Option.some.inj (steps.symm.trans steps')
  exact allowed_of_keeps keeps visit notAck found

theorem sendsAllowed_of_none {s : Core w} {operation : Operation w}
    (steps : operation.steps p env = none) : Operation.SendsAllowed p s (env, operation) := by
  rintro s' message ⟨-, m, channel, steps', -⟩
  rw [steps] at steps'
  cases steps'

theorem sendsAllowed_of_permit {s : Core w} {input : Input w}
    (permitted : tableRules.Permit input) :
    Operation.SendsAllowed p s (env, .ofInput input) := by
  cases steps : Operation.steps p env (.ofInput input) with
  | none => exact sendsAllowed_of_none steps
  | some m =>
    apply sendsAllowed_of_keeps steps
    exact Operation.keeps_ofInput p env steps permitted

/-- No status allows a CONTACT_DISCOVER. -/
theorem isMessageActionAllowed_contactDiscover (status : Status) :
    isMessageActionAllowed status .contactDiscover = false := by
  cases status <;> rfl

/-- The expiry of a delivery. -/
theorem expire_sendsAllowed_iff (s : Core w) (k : NumberedKey w) :
    Operation.SendsAllowed p s (env, .ofInput (.expire k)) ↔
      Operation.Respects p s (env, .ofInput (.expire k)) := by
  constructor
  · intro allowed alive dialogId mNext mAddress mChannel dialog late found ended reaches
    obtain ⟨connected, sign, signed⟩ := reaches
    have permitted := allowed s ((expiryAbort env dialog mAddress).setSignature sign)
      ⟨alive, _, mChannel, rfl, (visits_expireEntry late).mpr
        (visits_timeouted.mpr ⟨dialog, found, rfl, rfl, connected, sign, signed, rfl⟩)⟩
      (by simp [expiryAbort, makeAbort, DialogMessage.make, DialogMessage.setSignature]) dialog
      (by
        show s.mDialogStorage.find dialog.mDialogId = some dialog
        rw [DialogStorage.mDialogId_of_find found]
        exact found)
    rw [show ((expiryAbort env dialog mAddress).setSignature sign).mAction = .abort from rfl,
      isMessageActionAllowed_abort, ended] at permitted
    cases permitted
  · intro respects
    cases late : s.mRepo.overdue env.systemClock k with
    | none =>
      rintro s' message ⟨-, m, channel, steps, visit⟩
      obtain rfl := Option.some.inj steps
      simp [Steps.expireEntry, Prog.visits_bind, Prog.visits_atom, Atom.exec, Eff.reads, late]
        at visit
    | some handler =>
      rintro s' message ⟨alive, m, channel, steps, visit⟩ notAck dialog found
      obtain rfl := Option.some.inj steps
      have sent := (visits_expireEntry late).mp visit
      by_cases aborts : ∃ dialogId mNext mAddress mChannel,
          handler = .dialogAction dialogId mNext true mAddress mChannel
      · obtain ⟨dialogId, mNext, mAddress, mChannel, rfl⟩ := aborts
        obtain ⟨waiting, stored, rfl, rfl, connected, sign, signed, rfl⟩ := visits_timeouted.mp sent
        have sameId : waiting.mDialogId = dialogId := DialogStorage.mDialogId_of_find stored
        have same : waiting = dialog := by
          have found' : s'.mDialogStorage.find waiting.mDialogId = some dialog := found
          rw [sameId, stored] at found'
          exact Option.some.inj found'
        show isMessageActionAllowed dialog.mStatus .abort = true
        rw [isMessageActionAllowed_abort, ← same]
        by_contra ended
        apply respects alive dialogId mNext mAddress channel waiting late stored
        · simpa using ended
        · exact ⟨connected, sign, signed⟩
      · refine allowed_of_keeps (Steps.keeps_timeouted p env ?_ ?_) sent notAck found
        · intro _ _ _ quiet
          exact quiet
        · intro dialogId mNext mAddress mChannel same _
          exact aborts ⟨dialogId, mNext, mAddress, mChannel, same⟩

/-- The publication of the own contact data. -/
theorem discover_sendsAllowed_iff (s : Core w) (number : BitVec 32) (name address channel : Str) :
    Operation.SendsAllowed p s (env, .discover number name address channel) ↔
      Operation.Respects p s (env, .discover number name address channel) := by
  have visits : ∀ s' channel' sent, (s', Atom.transmit channel' sent) ∈
      (Steps.discover p env number name address channel).visits (Atom.exec p env) s ↔
        ∃ key, p.exportPublicKey = .ok key ∧ (s', Atom.transmit channel' sent) ∈
          (Steps.sendAndForget (DiscoverContactAgent.discoverMessage env number name key address)
            channel).visits (Atom.exec p env) s := by
    intro s' channel' sent
    unfold Steps.discover
    cases p.exportPublicKey with
    | error e => simp
    | ok key => simp
  constructor
  · intro allowed alive key exported taken reaches
    obtain ⟨connected, sign, signed⟩ := reaches
    obtain ⟨dialog, found⟩ := has_iff.mp taken
    have permitted := allowed s ((DiscoverContactAgent.discoverMessage env number name key
      address).setSignature sign) ⟨alive, _, channel, rfl, (visits _ _ _).mpr ⟨key, exported,
        visits_sendAndForget.mpr ⟨rfl, rfl, connected, sign, signed, rfl⟩⟩⟩
      (by simp [DiscoverContactAgent.discoverMessage, DialogMessage.make,
        DialogMessage.setSignature]) dialog found
    rw [show ((DiscoverContactAgent.discoverMessage env number name key address).setSignature
      sign).mAction = .contactDiscover from rfl, isMessageActionAllowed_contactDiscover] at permitted
    cases permitted
  · rintro respects s' message ⟨alive, m, channel', steps, visit⟩ _ dialog found
    obtain rfl := Option.some.inj steps
    obtain ⟨key, exported, sent⟩ := (visits _ _ _).mp visit
    obtain ⟨rfl, rfl, connected, sign, signed, rfl⟩ := visits_sendAndForget.mp sent
    exfalso
    apply respects alive key exported
    · exact has_iff.mpr ⟨dialog, found⟩
    · exact ⟨connected, sign, signed⟩

/-- An operation respects the table exactly if it is neither the expiry of a request for an ended
dialog nor a CONTACT_DISCOVER under the identifier of a dialog. -/
theorem sendsAllowed_iff (s : Core w) (step : Env w × Operation w) :
    Operation.SendsAllowed p s step ↔ Operation.Respects p s step := by
  obtain ⟨env, operation⟩ := step
  have always : Operation.SendsAllowed p s (env, operation) →
      Operation.Respects p s (env, operation) →
        (Operation.SendsAllowed p s (env, operation) ↔
          Operation.Respects p s (env, operation)) := by
    intro allowed respects
    exact ⟨fun _ => respects, fun _ => allowed⟩
  cases operation with
  | discover number name address channel =>
    exact discover_sendsAllowed_iff s number name address channel
  | ofInput input =>
    cases input with
    | expire k => exact expire_sendsAllowed_iff s k
    | sendMessage | removeDialog => exact always (sendsAllowed_of_permit id) fun _ => trivial
    | dispatch message channelName =>
      exact always (sendsAllowed_of_permit ⟨fun _ => id, fun _ => trivial⟩) fun _ => trivial
    | _ => exact always (sendsAllowed_of_permit trivial) fun _ => trivial

variable (p) in
/-- In every run, from any state, what is sent for a stored dialog is allowed in the status that is
stored at the moment of sending, exactly if every step keeps to the table. -/
theorem outgoing_allowed_iff (s : Core w) (steps : List (Env w × Operation w)) :
    Run.Along (Operation.next p) (Operation.SendsAllowed p) s steps ↔
      Run.Along (Operation.next p) (Operation.Respects p) s steps := by
  constructor
  · intro allowed
    apply allowed.mono
    intro s step
    exact (sendsAllowed_iff s step).mp
  · intro respects
    apply respects.mono
    intro s step
    exact (sendsAllowed_iff s step).mpr

end

namespace Sample

/-- The peer asks for a dialog, the user aborts it, and the VERIFY_KEY is never acknowledged. -/
def unacknowledged : List (Env 64 × Operation 64) :=
  (connect ++ [receive .createDialog 1 [], (env, .abortDialog (str "dialog")),
    ({ env with systemClock := 100 * nanoseconds }, .expire (str "dialog", 6))]).map
      fun step => (step.1, .ofInput step.2)

end Sample

/-- The ABORT of the expired VERIFY_KEY is sent for a dialog that is ABORTED. -/
theorem ended_dialog_aborted_again :
    ¬ Run.Along (Operation.next Sample.platform) (Operation.SendsAllowed Sample.platform)
      Core.initial Sample.unacknowledged := by
  rintro ⟨-, -, -, -, expiry, -⟩
  have respects := (sendsAllowed_iff _ _).mp expiry (by decide +kernel) (str "dialog")
    .waitKeyVerificaion Sample.peer.adress Sample.channel (Sample.dialog .aborted 1 6)
    (by decide +kernel) (by decide +kernel) rfl
  exact respects ⟨by decide +kernel, str "c2lnbg==", rfl⟩

end SecureDialogues
