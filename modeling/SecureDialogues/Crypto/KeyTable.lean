import SecureDialogues.Stepwise.OutgoingActions

/-!
# The table of the peers' keys

`CryptoSystemImpl::mRemote` (`messages/src/crypto/cryptosystemimpl.cpp:143-156`) is kept by the
listener of the contact storage, `CryptoSystemContactUpdateInformator`, which hears of every
contact that is added, changed or removed. Nothing is loaded when the program starts.
-/

namespace SecureDialogues

open Text Effect

section

variable {w : Nat} (p : Platform w)

/-! ## The contact storage and its listener -/

/-- What happens to the contacts of a running program, between its other steps. A record whose
listener threw may be `kept` or be taken back by the storage, and the dialogs that go with a
removed contact are the storage's choice. -/
inductive ContactCommand (w : Nat) where
  | save (contact : Contact) (kept : Bool)
  | remove (contactId : Str) (dialogIds : List Str)
  | other (step : Step w) (noContact : ∀ contact, step.2 ≠ .saveContact contact)

/-- `CryptoSystemImpl::removeContact` (`cryptosystemimpl.cpp:153-156`). -/
def Core.removeKey (s : Core w) (contactId : Str) : Core w :=
  { s with mRemote := s.mRemote.erase contactId }

/-- The `remove` of a contact from the storage, after its dialogs, with the listener. -/
def Core.removeContact (s : Core w) (contactId : Str) (dialogIds : List Str) : Core w :=
  if contactId ∈ s.mContactStorage then
    let removed := dialogIds.foldl Core.removeDialog s
    { removed with mContactStorage := removed.mContactStorage.erase contactId }.removeKey contactId
  else s

/-- The `add` and the `save` of a contact, with the listener. -/
def Core.saveContact (s : Core w) (contact : Contact) (kept : Bool) : Core w :=
  match SecureDialogues.saveContact p contact s with
  | (.ok _, s') => s'
  | (.error _, s') => if kept then s' else s

/-- The state after a command. -/
def ContactCommand.next (s : Core w) : ContactCommand w → Core w
  | save contact kept => if s.alive then s.saveContact p contact kept else s
  | remove contactId dialogIds => if s.alive then s.removeContact contactId dialogIds else s
  | other step _ => SecureDialogues.next p s step

/-! ## The mirror -/

/-- The entry of a contact: its address and its public key. -/
def IsEntryOf (contact : Contact) (element : RemoteElement) : Prop :=
  element.addres = contact.adress ∧ p.loadPublicKey contact.publicKey = .ok element.mOperation

/-- The key table holds one entry per stored contact, under its identifier, and no other. -/
def MirrorsContacts (s : Core w) : Prop :=
  ∀ contactId : Str,
    Option.Rel (IsEntryOf p) s.mContactStorage[contactId]? s.mRemote[contactId]?

/-- What keeps the table up to date: the public key of a contact that is saved can be loaded (or
the storage takes the record back), and the program is started only over an empty storage. -/
def ContactCommand.Tracks (s : Core w) : ContactCommand w → Prop
  | save contact kept =>
    s.alive = true → (∃ key, p.loadPublicKey contact.publicKey = .ok key) ∨ kept = false
  | remove _ _ => True
  | other step _ => step.2 = .restart → s.mContactStorage = ∅

variable {p}

theorem optionRel_none {α β : Type} {r : α → β → Prop} {a : Option α} :
    Option.Rel r a none ↔ a = none := by
  constructor
  · intro related
    cases related
    rfl
  · rintro rfl
    exact .none

theorem optionRel_some {α β : Type} {r : α → β → Prop} {a : α} {other : Option β} :
    Option.Rel r (some a) other ↔ ∃ b, other = some b ∧ r a b := by
  constructor
  · intro related
    cases related with
    | some related => exact ⟨_, rfl, related⟩
  · rintro ⟨b, rfl, related⟩
    exact .some related

theorem mirrorsContacts_restart (s : Core w) :
    MirrorsContacts p s.restart ↔ s.mContactStorage = ∅ := by
  constructor
  · intro mirrors
    apply Std.ExtTreeMap.ext_getElem?
    intro contactId
    have absent := mirrors contactId
    rw [show s.restart.mRemote[contactId]? = none by simp [Core.restart], optionRel_none] at absent
    simpa [Core.restart] using absent
  · intro empty contactId
    have stored : s.restart.mContactStorage = ∅ := empty
    rw [stored]
    simp only [Std.ExtTreeMap.getElem?_empty]
    exact optionRel_none.mpr (by simp)

/-! ## The commands -/

/-- Other entries than the one that is written. -/
theorem MirrorsContacts.insert {s : Core w} (mirrors : MirrorsContacts p s) {contact : Contact}
    {element : RemoteElement} (entry : IsEntryOf p contact element) :
    MirrorsContacts p { s with
      mContactStorage := s.mContactStorage.insert contact.id contact
      mRemote := s.mRemote.insert contact.id element } := by
  intro contactId
  simp only [getElem?_insert]
  by_cases same : contact.id = contactId
  · rw [if_pos same, if_pos same]
    exact .some entry
  · rw [if_neg same, if_neg same]
    exact mirrors contactId

/-- A contact whose key cannot be loaded has no entry, or the one of its former record. -/
theorem saveContact_eq (contact : Contact) (kept : Bool) (s : Core w) :
    (∃ key, p.loadPublicKey contact.publicKey = .ok key ∧
      s.saveContact p contact kept = { s with
        mContactStorage := s.mContactStorage.insert contact.id contact
        mRemote := s.mRemote.insert contact.id
          { addres := contact.adress, mOperation := key } }) ∨
    (∃ e, p.loadPublicKey contact.publicKey = .error e) ∧
      s.saveContact p contact kept =
        if kept then { s with mContactStorage := s.mContactStorage.insert contact.id contact }
        else s := by
  unfold Core.saveContact SecureDialogues.saveContact updateContact
  simp only [Eff.update_bind, Eff.readsOr_bind]
  cases p.loadPublicKey contact.publicKey with
  | ok key => exact .inl ⟨key, rfl, rfl⟩
  | error e => exact .inr ⟨⟨e, rfl⟩, rfl⟩

theorem saveContact_mirrors_iff {s : Core w} (mirrors : MirrorsContacts p s) (contact : Contact)
    (kept : Bool) : MirrorsContacts p (s.saveContact p contact kept) ↔
      (∃ key, p.loadPublicKey contact.publicKey = .ok key) ∨ kept = false := by
  rcases saveContact_eq contact kept s with ⟨key, loaded, saved⟩ | ⟨⟨e, failed⟩, saved⟩
  · rw [saved]
    constructor
    · intro _
      exact .inl ⟨key, loaded⟩
    · intro _
      exact mirrors.insert ⟨rfl, loaded⟩
  · rw [saved]
    cases kept with
    | false => simp [mirrors]
    | true =>
      constructor
      · intro mirrored
        have entry := mirrored contact.id
        simp only [if_true, getElem?_insert] at entry
        obtain ⟨element, -, related⟩ := optionRel_some.mp entry
        exact .inl ⟨_, related.2⟩
      · rintro (⟨key, loaded⟩ | taken)
        · rw [failed] at loaded
          cases loaded
        · cases taken

theorem foldl_removeDialog_contacts (dialogIds : List Str) (s : Core w) :
    (dialogIds.foldl Core.removeDialog s).mContactStorage = s.mContactStorage ∧
      (dialogIds.foldl Core.removeDialog s).mRemote = s.mRemote := by
  induction dialogIds generalizing s with
  | nil => exact ⟨rfl, rfl⟩
  | cons dialogId rest ih => exact ih (s.removeDialog dialogId)

theorem removeContact_mirrors {s : Core w} (mirrors : MirrorsContacts p s) (contactId : Str)
    (dialogIds : List Str) : MirrorsContacts p (s.removeContact contactId dialogIds) := by
  unfold Core.removeContact
  split
  · obtain ⟨contacts, remote⟩ := foldl_removeDialog_contacts dialogIds s
    intro other
    simp only [Core.removeKey, contacts, remote, getElem?_erase]
    by_cases same : contactId = other
    · rw [if_pos same, if_pos same]
      exact .none
    · rw [if_neg same, if_neg same]
      exact mirrors other
  · exact mirrors

/-- Whatever else an operation does, the contacts and the keys stay as they are. -/
theorem perform_contacts (env : Env w) {input : Input w}
    (noContact : ∀ contact, input ≠ .saveContact contact) (started : input ≠ .restart) :
    Eff.Leaves (fun s => (s.mContactStorage, s.mRemote)) (perform p env input) := by
  cases steps : (Operation.ofInput input).steps p env with
  | some m =>
    rw [show perform p env input = m.run (Atom.exec p env) from
      (Operation.run_steps p env steps).symm]
    exact Prog.run_leaves _ (Atom.exec_contacts p env) m
  | none =>
    cases input with
    | saveContact contact => exact absurd rfl (noContact contact)
    | restart => exact absurd rfl started
    | addChannel name waitAckInterval =>
      apply Eff.Leaves.bind (.reads _)
      intro channels
      split
      · exact fun _ => rfl
      · exact .update fun _ => rfl
    | removeChannel name => exact .update fun _ => rfl
    | createDialog | closeDialog | abortDialog | removeDialog | setActiveDialog | sendMessage
    | dispatch | expire => cases steps

theorem exec_contacts (env : Env w) {input : Input w}
    (noContact : ∀ contact, input ≠ .saveContact contact) (started : input ≠ .restart)
    (s : Core w) : (exec p env input s).mContactStorage = s.mContactStorage ∧
      (exec p env input s).mRemote = s.mRemote := by
  have same := perform_contacts (p := p) env noContact started s
  have parts := Prod.ext_iff.mp same
  unfold exec
  split
  · rcases outcome : perform p env input s with ⟨(e | _) | _, s'⟩ <;> rw [outcome] at parts <;>
      exact parts
  · exact ⟨rfl, rfl⟩

theorem other_mirrors_iff {s : Core w} (mirrors : MirrorsContacts p s) (step : Step w)
    (noContact : ∀ contact, step.2 ≠ .saveContact contact) :
    MirrorsContacts p (next p s step) ↔ (step.2 = .restart → s.mContactStorage = ∅) := by
  obtain ⟨env, input⟩ := step
  by_cases started : input = .restart
  · subst started
    show MirrorsContacts p (exec p env .restart s) ↔ _
    rw [exec_restart, mirrorsContacts_restart]
    simp
  · obtain ⟨contacts, remote⟩ := exec_contacts (p := p) env noContact started s
    have kept : MirrorsContacts p (next p s (env, input)) := by
      intro contactId
      show Option.Rel _ (exec p env input s).mContactStorage[contactId]?
        (exec p env input s).mRemote[contactId]?
      rw [contacts, remote]
      exact mirrors contactId
    constructor
    · intro _ restarted
      exact absurd restarted started
    · intro _
      exact kept

/-- A table that mirrors the contacts goes on doing so exactly if the command keeps it up to
date. -/
theorem next_mirrors_iff {s : Core w} (mirrors : MirrorsContacts p s)
    (command : ContactCommand w) :
    MirrorsContacts p (command.next p s) ↔ command.Tracks p s := by
  cases command with
  | save contact kept =>
    by_cases alive : s.alive = true
    · rw [ContactCommand.next, if_pos alive, saveContact_mirrors_iff mirrors]
      simp [ContactCommand.Tracks, alive]
    · rw [ContactCommand.next, if_neg alive]
      simp [ContactCommand.Tracks, alive, mirrors]
  | remove contactId dialogIds =>
    have kept : MirrorsContacts p
        ((ContactCommand.remove contactId dialogIds).next p s) := by
      show MirrorsContacts p (if s.alive then s.removeContact contactId dialogIds else s)
      split
      · exact removeContact_mirrors mirrors contactId dialogIds
      · exact mirrors
    exact ⟨fun _ => trivial, fun _ => kept⟩
  | other step noContact => exact other_mirrors_iff mirrors step noContact

variable (p) in
/-- A program that is started over any storages: the key table mirrors the contact storage from the
start on and after every command, exactly if the storage holds no contact at the start (and at every
new start) and the public key of every contact that is saved can be loaded. -/
theorem keyTable_mirrors_iff (disk : Core w) (commands : List (ContactCommand w)) :
    (MirrorsContacts p disk.restart ∧
      Run.Along (ContactCommand.next p)
        (fun s command => MirrorsContacts p (command.next p s)) disk.restart commands) ↔
      disk.mContactStorage = ∅ ∧
        Run.Along (ContactCommand.next p) (ContactCommand.Tracks p) disk.restart commands := by
  rw [← mirrorsContacts_restart (p := p) disk]
  apply and_congr_right
  intro mirrors
  apply Run.along_iff_along (I := fun _ => True) (W := MirrorsContacts p)
  · intro _ _ _
    trivial
  · intro s command _ mirrors
    exact next_mirrors_iff mirrors command
  · trivial
  · exact mirrors

end

/-- The peer is stored when the program starts, and its key is not in the table. -/
theorem stored_contact_without_key :
    (Sample.run Sample.connect).restart.mContactStorage[Sample.peer.id]? = some Sample.peer ∧
      ¬ MirrorsContacts Sample.platform (Sample.run Sample.connect).restart := by
  have stored : (Sample.run Sample.connect).restart.mContactStorage[Sample.peer.id]? =
      some Sample.peer := by
    decide +kernel
  refine ⟨stored, ?_⟩
  intro mirrors
  have entry := mirrors Sample.peer.id
  rw [stored] at entry
  cases entry

end SecureDialogues
