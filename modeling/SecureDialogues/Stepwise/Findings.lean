import SecureDialogues.Lib.RelyGuarantee
import SecureDialogues.Stepwise.Interleaving

/-!
# What the operations find out before they send

A message is put together from what its operation has read and computed: the dialog's contact, a
content under the session key, a signature. The discipline here lets an operation send only what it
has found out itself, and only to the contact of the dialog or back to where an incoming message
came from; every operation keeps it.
-/

namespace SecureDialogues

open Text Effect

section

variable {w : Nat}

/-- What the signature field of a message holds while the signature is made. -/
def signField : Action → Str
  | .ack => str " "
  | _ => []

theorem signField_of_ne {action : Action} (other : action ≠ .ack) : signField action = [] := by
  cases action with
  | ack => exact absurd rfl other
  | _ => rfl

/-- What an operation has found out about the shared state. -/
inductive Finding (w : Nat) where
  /-- The dialog's contact is reached at this address over this channel. -/
  | direction (dialogId address channel : Str)
  /-- The message carries the signature that was made while its field held `field`. -/
  | signature (message : DialogMessage w) (field : Str)
  /-- A text of the user under the session key of the dialog. -/
  | text (dialogId content : Str)
  /-- A verification string under the session key of the dialog. -/
  | verification (dialogId content : Str)
  /-- A session key under the public key of the peer at the address. -/
  | key (address content : Str)
  deriving DecidableEq

/-- The contacts of the dialogs that an operation has seen, and its other findings. -/
structure Findings (w : Nat) where
  bound : Str → Option Str
  found : List (Finding w)

namespace Findings

/-- An operation at its start. -/
def none : Findings w where
  bound _ := .none
  found := []

variable (notes notes' : Findings w)

/-- The contact of a dialog was seen. -/
def bind (dialogId contactId : Str) : Findings w :=
  { notes with bound := Function.update notes.bound dialogId (some contactId) }

def add (finding : Finding w) : Findings w := { notes with found := finding :: notes.found }

instance : Preorder (Findings w) where
  le notes notes' :=
    (∀ dialogId contactId, notes.bound dialogId = some contactId →
      notes'.bound dialogId = some contactId) ∧ notes.found ⊆ notes'.found
  le_refl _ := ⟨fun _ _ seen => seen, List.Subset.refl _⟩
  le_trans _ _ _ first second :=
    ⟨fun dialogId contactId seen => second.1 _ _ (first.1 dialogId contactId seen),
      List.Subset.trans first.2 second.2⟩

variable {notes notes'}

theorem le_add (finding : Finding w) : notes ≤ notes.add finding :=
  ⟨fun _ _ seen => seen, List.subset_cons_self _ _⟩

theorem le_bind {dialogId contactId : Str}
    (consistent : ∀ seen, notes.bound dialogId = some seen → contactId = seen) :
    notes ≤ notes.bind dialogId contactId := by
  refine ⟨?_, List.Subset.refl _⟩
  intro other seen already
  show Function.update notes.bound dialogId (some contactId) other = some seen
  by_cases same : other = dialogId
  · rw [same] at already ⊢
    rw [Function.update_self, consistent seen already]
  · rw [Function.update_of_ne same, already]

@[simp] theorem bound_bind_self (dialogId contactId : Str) :
    (notes.bind dialogId contactId).bound dialogId = some contactId := Function.update_self _ _ _

theorem bound_bind (dialogId contactId other : Str) : (notes.bind dialogId contactId).bound other =
    if other = dialogId then some contactId else notes.bound other := Function.update_apply _ _ _ _

@[simp] theorem bound_add (finding : Finding w) : (notes.add finding).bound = notes.bound := rfl

@[simp] theorem found_bind (dialogId contactId : Str) :
    (notes.bind dialogId contactId).found = notes.found := rfl

@[simp] theorem found_add (finding : Finding w) :
    (notes.add finding).found = finding :: notes.found := rfl

end Findings

/-! ## The discipline -/

variable (routed : Prop) (contacts : Table Contact) (turns : List (Threads.Turn w))

/-- The user has typed the text. -/
def Typed (text : Str) : Prop := ∃ env, .start env (.sendMessage text) ∈ turns

/-- The message has come over the channel. -/
def Came (message : DialogMessage w) (channel : Str) : Prop :=
  ∃ env, ∃ operation ∈ [.dispatch message channel, .handleDialogAction message channel,
    .handleMessageAction message channel], .start env operation ∈ turns

/-- The message is an ACK or an ABORT that goes back to where a message of its dialog has come
from. -/
def Answers (message : DialogMessage w) (channel : Str) : Prop :=
  (message.mAction = .ack ∨ message.mAction = .abort) ∧
    ∃ incoming, Came turns incoming channel ∧ incoming.mAdress = message.mAdress ∧
      incoming.mDialogId = message.mDialogId

/-- The message is an ABORT that goes over the channel that a message of its dialog has come
over. -/
def Reports (message : DialogMessage w) (channel : Str) : Prop :=
  message.mAction = .abort ∧
    ∃ incoming, Came turns incoming channel ∧ incoming.mDialogId = message.mDialogId

namespace Findings

/-- The dialog's contact was found to be reached there. -/
def Reaches (notes : Findings w) (dialogId address channel : Str) : Prop :=
  .direction dialogId address channel ∈ notes.found ∨
    ∃ contactId contact, notes.bound dialogId = some contactId ∧
      contacts[contactId]? = some contact ∧ contact.adress = address ∧
      contact.channelMoniker = channel

/-- The content is what a message with the action needs, and was found out. -/
def Seals (notes : Findings w) (action : Action) (dialogId address content : Str) : Prop :=
  match action with
  | .message => .text dialogId content ∈ notes.found
  | .keyVerification => .verification dialogId content ∈ notes.found
  | .verifyKey => .key address content ∈ notes.found
  | _ => content = []

/-- The message may be handed to the channel. -/
def MayTransmit (notes : Findings w) (channel : Str) (message : DialogMessage w) : Prop :=
  .signature message (signField message.mAction) ∈ notes.found ∧
    notes.Seals message.mAction message.mDialogId message.mAdress message.mContent ∧
    (routed → notes.Reaches contacts message.mDialogId message.mAdress channel ∨
      Answers turns message channel ∨
      Reports turns message channel ∧
        ∃ mChannel, notes.Reaches contacts message.mDialogId message.mAdress mChannel)

/-- The ABORT of the callback would go to the contact of its dialog. -/
def MayStore (notes : Findings w) : DeliveryHandler → Prop
  | .dialogAction dialogId _ _ mAddress mChannel => notes.Reaches contacts dialogId mAddress mChannel
  | .messageNotDeliveried _ _ => True

variable {contacts} {notes notes' : Findings w}

theorem Reaches.mono (later : notes ≤ notes') {dialogId address channel : Str}
    (reaches : notes.Reaches contacts dialogId address channel) :
    notes'.Reaches contacts dialogId address channel := by
  rcases reaches with found | ⟨contactId, contact, seen, stored⟩
  · exact .inl (later.2 found)
  · exact .inr ⟨contactId, contact, later.1 _ _ seen, stored⟩

theorem Seals.mono (later : notes ≤ notes') {action : Action} {dialogId address content : Str}
    (seals : notes.Seals action dialogId address content) :
    notes'.Seals action dialogId address content := by
  cases action with
  | message | keyVerification | verifyKey => exact later.2 seals
  | _ => exact seals

theorem MayStore.mono (later : notes ≤ notes') {handler : DeliveryHandler}
    (mayStore : notes.MayStore contacts handler) : notes'.MayStore contacts handler := by
  cases handler with
  | dialogAction => exact Reaches.mono later mayStore
  | messageNotDeliveried => trivial

/-- The contact that was read for a dialog that was seen is where the dialog's messages go. -/
theorem reaches_of_seen {dialogId contactId : Str} {contact : Contact}
    (seen : notes.bound dialogId = some contactId) (stored : contacts[contactId]? = some contact) :
    notes.Reaches contacts dialogId contact.adress contact.channelMoniker :=
  .inr ⟨contactId, contact, seen, stored, rfl, rfl⟩

end Findings

/-- What an operation may do over the stored contacts, if the operations were started by `turns`.
If they are `routed`, it is also asked where the messages go. -/
def provenance : Prog.Discipline (Atom w) Atom.Result Exn (Findings w) where
  guard notes
    | .saveDialog dialog => notes.bound dialog.mDialogId = some dialog.mContactId
    | .removeDialog _ => False
    | .storeDelivery handler _ _ => routed → notes.MayStore contacts handler
    | .encryptMessageBody _ text => Typed turns text
    | .transmit channel message => notes.MayTransmit routed contacts turns channel message
    | _ => True
  possible notes
    | .wrapper dialogId, .ok dialog => Dialog.mDialogId dialog = dialogId ∧
        ∀ contactId, notes.bound dialogId = some contactId → Dialog.mContactId dialog = contactId
    | .addDialog dialog, .ok () => notes.bound dialog.mDialogId = .none
    | .getContact contactId, .ok contact => contacts[contactId]? = some contact
    | .contactsAt address channel, .ok found =>
        found = DialogActionHandler.contactsAt contacts address channel
    | .addToActiveDialog _, .ok handler => ∃ dialogId number,
        handler = .messageNotDeliveried dialogId number
    | _, _ => True
  note notes
    | .wrapper dialogId, .ok dialog => notes.bind dialogId (Dialog.mContactId dialog)
    | .addDialog dialog, .ok () => notes.bind dialog.mDialogId dialog.mContactId
    | .overdueDelivery _, .ok (some (.dialogAction dialogId _ _ mAddress mChannel)) =>
        notes.add (.direction dialogId mAddress mChannel)
    | .createSignature message, .ok sign =>
        notes.add (.signature (message.setSignature sign) message.mSign)
    | .encryptMessageBody dialogId _, .ok content => notes.add (.text dialogId content)
    | .importKey dialogId _, .ok content => notes.add (.verification dialogId content)
    | .generateAndExportKey _ address, .ok content => notes.add (.key address content)
    | _, _ => notes

/-- The operation keeps the discipline. -/
abbrev Traces {α : Type} (notes : Findings w) (m : Steps w α) : Prop :=
  Prog.Obeys (provenance routed contacts turns) notes m fun _ _ => True

/-- No step forgets anything. -/
theorem provenance_grows (notes : Findings w) (a : Atom w) (r : Except (Fault Exn) a.Result)
    (possible : (provenance routed contacts turns).possible notes a r) :
    notes ≤ (provenance routed contacts turns).note notes a r := by
  cases r with
  | error e => cases a <;> exact le_refl notes
  | ok x =>
    cases a with
    | wrapper dialogId => exact Findings.le_bind possible.2
    | addDialog dialog =>
      apply Findings.le_bind
      intro seen already
      have absent : notes.bound dialog.mDialogId = .none := possible
      rw [absent] at already
      cases already
    | overdueDelivery k =>
      rcases x with _ | ⟨_ | _⟩
      · exact le_refl notes
      · exact Findings.le_add _
      · exact le_refl notes
    | createSignature | encryptMessageBody | importKey | generateAndExportKey =>
      exact Findings.le_add _
    | _ => exact le_refl notes

end

end SecureDialogues
