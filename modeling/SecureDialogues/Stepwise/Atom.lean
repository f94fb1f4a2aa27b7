import SecureDialogues.Crypto.CryptoProps
import SecureDialogues.Lib.Resumption
import SecureDialogues.Step

/-!
# The atomic steps of the operations

What the operations do one after the other when several of them run at the same time: the reads
and writes of the storages, the hand-over of a message to a channel, and the calls of the message
container, of the repository of pending deliveries and of the cryptography, each of which works
under a mutex of its own.
-/

namespace SecureDialogues

open Text Effect

/-- An atomic step. -/
inductive Atom (w : Nat) where
  | wrapper (dialogId : Str)
  | hasDialog (dialogId : Str)
  | addDialog (dialog : Dialog w)
  | saveDialog (dialog : Dialog w)
  | removeDialog (dialogId : Str)
  | getContact (contactId : Str)
  | contactsAt (address channel : Str)
  | addDiscovered (discovered : DiscoveredContact)
  | notify (severity : Severity) (text : Str)
  | findChannel (name : Str)
  | createSignature (message : DialogMessage w)
  | storeDelivery (handler : DeliveryHandler) (k : NumberedKey w) (timeout : Nat)
  | transmit (channel : Str) (message : DialogMessage w)
  | findDelivery (k : NumberedKey w)
  | overdueDelivery (k : NumberedKey w)
  | eraseDelivery (k : NumberedKey w)
  | isSignatureOk (message : DialogMessage w)
  | generateAndExportKey (dialogId address : Str)
  | importKey (dialogId message : Str)
  | checkVerificationString (dialogId message : Str)
  | encryptMessageBody (dialogId message : Str)
  | decryptMessageBody (dialogId message : Str)
  | activeDialog
  | setActiveDialog (dialogId : Str)
  | addMessage (dialogId : Str) (message : UserMessage)
  | addToActiveDialog (message : Str)
  | updateMessage (dialogId : Str) (number : Nat) (status : UserMessage.Status)
  | record (event : Event w)

namespace Atom

variable {w : Nat}

/-- What a step returns. -/
@[reducible]
def Result : Atom w → Type
  | wrapper _ => Dialog w
  | hasDialog _ => Bool
  | getContact _ => Contact
  | contactsAt _ _ => List Contact
  | findChannel _ => Option Nat
  | createSignature _ => Str
  | findDelivery _ => Option (StoredElement DeliveryHandler)
  | overdueDelivery _ => Option DeliveryHandler
  | isSignatureOk _ => Except Exn Bool
  | generateAndExportKey _ _ => Str
  | importKey _ _ => Str
  | checkVerificationString _ _ => Bool
  | encryptMessageBody _ _ => Str
  | decryptMessageBody _ _ => Str
  | activeDialog => Str
  | addToActiveDialog _ => DeliveryHandler
  | _ => Unit

variable (p : Platform w) (env : Env w)

/-- What a step does. -/
@[simp] def exec : (a : Atom w) → Eff (Core w) Exn a.Result
  | wrapper dialogId => SecureDialogues.wrapper p dialogId
  | hasDialog dialogId => Eff.reads (·.mDialogStorage.has dialogId)
  | addDialog dialog => SecureDialogues.addDialog p dialog
  | saveDialog dialog => save p dialog
  | removeDialog dialogId => Eff.update (·.removeDialog dialogId)
  | getContact contactId => SecureDialogues.getContact p contactId
  | contactsAt address channel =>
    Eff.reads fun s => DialogActionHandler.contactsAt s.mContactStorage address channel
  | addDiscovered discovered => do
    let stored ← Eff.reads (·.mDiscoveredStorage)
    if discovered.dialogId ∈ stored then Eff.raise (p.duplicate discovered.dialogId)
    else Eff.update fun s => { s with
      mDiscoveredStorage := s.mDiscoveredStorage.insert discovered.dialogId discovered }
  | notify severity text => SecureDialogues.notify severity text
  | findChannel name => Eff.reads (·.mChannels[name]?)
  | createSignature message => SecureDialogues.createSignature env message
  | storeDelivery handler k timeout => Eff.update fun s => { s with
      mRepo := s.mRepo.store env.systemClock handler k timeout }
  | transmit channel message => channelSendMessage env channel message
  | findDelivery k => Eff.reads (·.mRepo[k]?)
  | overdueDelivery k => Eff.reads (·.mRepo.overdue env.systemClock k)
  | eraseDelivery k => Eff.update fun s => { s with mRepo := s.mRepo.erase k }
  | isSignatureOk message => Eff.reads fun s => SecureDialogues.isSignatureOk p s.mRemote message
  | generateAndExportKey dialogId address =>
    SecureDialogues.generateAndExportKey p env dialogId address
  | importKey dialogId message => SecureDialogues.importKey p dialogId message
  | checkVerificationString dialogId message =>
    Eff.readsOr fun s => SecureDialogues.checkVerificationString p s.mCiphers dialogId message
  | encryptMessageBody dialogId message =>
    Eff.readsOr fun s => SecureDialogues.encryptMessageBody p s.mCiphers dialogId message
  | decryptMessageBody dialogId message =>
    Eff.readsOr fun s => SecureDialogues.decryptMessageBody p s.mCiphers dialogId message
  | activeDialog => Eff.reads (·.mMessageContainer.mActiveDialog)
  | setActiveDialog dialogId => MessageActionHandler.setActiveDialog dialogId
  | addMessage dialogId message => SecureDialogues.addMessage dialogId message
  | addToActiveDialog message => MessageActionHandler.addToActiveDialogWithWrapper p message
  | updateMessage dialogId number status => Eff.update fun s => { s with
      mMessageContainer := s.mMessageContainer.updateMessage dialogId number status }
  | record event => Eff.update (·.record event)

/-- The step is a write of the dialog storage. -/
def writesDialogs : Atom w → Bool
  | addDialog _ | saveDialog _ | removeDialog _ => true
  | _ => false

end Atom

/-- An operation by its atomic steps. -/
abbrev Steps (w : Nat) := Prog (Atom w) Atom.Result Exn

/-! ## What the steps leave alone -/

variable {w : Nat} (p : Platform w) (env : Env w) {τ : Type} {part : Core w → τ}

theorem channelSendMessage_leaves (record : ∀ s event, part (Core.record s event) = part s)
    (channelName : Str) (message : DialogMessage w) :
    Eff.Leaves part (channelSendMessage env channelName message) := by
  apply Eff.Leaves.bind (.reads _)
  intro outcome
  cases outcome with
  | ok _ => exact .update fun s => record s _
  | error e => exact .bind (.update fun s => record s _) fun _ => .raise e

theorem generateAndExportKey_leaves
    (emplace : ∀ s dialogId element, part (Core.emplaceCipher s dialogId element) = part s)
    (dialogId address : Str) :
    Eff.Leaves part (generateAndExportKey p env dialogId address) := by
  apply Eff.Leaves.bind (.readsOr _)
  intro elem
  apply Eff.Leaves.bind (.readsOr _)
  rintro ⟨cipher, messBody⟩
  apply Eff.Leaves.bind (.update fun s => emplace s _ _)
  intro _
  exact .bind (.readsOr _) fun _ => .pure _

theorem importKey_leaves
    (emplace : ∀ s dialogId element, part (Core.emplaceCipher s dialogId element) = part s)
    (dialogId message : Str) : Eff.Leaves part (importKey p dialogId message) := by
  unfold importKey
  apply Eff.Leaves.bind (.readsOr _)
  intro cipher
  apply Eff.Leaves.bind (.update fun s => emplace s _ _)
  intro _
  exact .bind (.readsOr _) fun _ => .readsOr _

theorem addToActiveDialogWithWrapper_leaves
    (contained : ∀ s container, part { s with mMessageContainer := container } = part s)
    (message : Str) :
    Eff.Leaves part (MessageActionHandler.addToActiveDialogWithWrapper p message) := by
  apply Eff.Leaves.bind (.reads _)
  intro container
  cases container.addToActiveDialogWithWrapper message false with
  | none => exact .raise _
  | some added => exact .bind (.update fun s => contained s _) fun _ => .pure _

/-- The dialogs change through the writes of their storage only. -/
theorem Atom.exec_mDialogStorage {a : Atom w} (other : a.writesDialogs = false) :
    Eff.Leaves (·.mDialogStorage) (a.exec p env) := by
  cases a with
  | addDialog | saveDialog | removeDialog => cases other
  | transmit channel message => exact channelSendMessage_leaves env (fun _ _ => rfl) channel message
  | generateAndExportKey dialogId address =>
    exact generateAndExportKey_leaves p env
      (fun s _ _ => (emplaceCipher_frame s _ _).1) dialogId address
  | importKey dialogId message =>
    exact importKey_leaves p (fun s _ _ => (emplaceCipher_frame s _ _).1) dialogId message
  | addToActiveDialog message =>
    exact addToActiveDialogWithWrapper_leaves p (fun _ _ => rfl) message
  | addDiscovered discovered =>
    apply Eff.Leaves.bind (.reads _)
    intro stored
    split
    · exact .raise _
    · exact .update fun _ => rfl
  | wrapper | getContact | createSignature | checkVerificationString | encryptMessageBody
  | decryptMessageBody => exact .readsOr _
  | _ => exact fun _ => rfl

/-- No step of an operation changes the contacts or the keys of the peers. -/
theorem Atom.exec_contacts (a : Atom w) :
    Eff.Leaves (fun s => (s.mContactStorage, s.mRemote)) (a.exec p env) := by
  have emplace : ∀ (s : Core w) dialogId element,
      ((s.emplaceCipher dialogId element).mContactStorage,
        (s.emplaceCipher dialogId element).mRemote) = (s.mContactStorage, s.mRemote) := by
    intro s dialogId element
    obtain ⟨-, contacts, remote, -⟩ := emplaceCipher_frame s dialogId element
    rw [contacts, remote]
  cases a with
  | transmit channel message => exact channelSendMessage_leaves env (fun _ _ => rfl) channel message
  | generateAndExportKey dialogId address =>
    exact generateAndExportKey_leaves p env emplace dialogId address
  | importKey dialogId message => exact importKey_leaves p emplace dialogId message
  | addToActiveDialog message =>
    exact addToActiveDialogWithWrapper_leaves p (fun _ _ => rfl) message
  | addDialog | addDiscovered =>
    apply Eff.Leaves.bind (.reads _)
    intro stored
    split
    · exact .raise _
    · exact .update fun _ => rfl
  | wrapper | getContact | createSignature | checkVerificationString | encryptMessageBody
  | decryptMessageBody => exact .readsOr _
  | _ => exact fun _ => rfl

end SecureDialogues
