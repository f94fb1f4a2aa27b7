import SecureDialogues.PersistentStorage.StoreHelpers
import SecureDialogues.Primitives.Contact

/-!
# The stored records

`messages/src/persistent_storage/dialogmarshaller.cpp`, `contactmarshaller.cpp` and
`discoveredcontactmarshaller.cpp`: how the database keeps dialogs, contacts and strangers. Strings
are restored by `prstorage::restore_str`, which belongs to the library of the store.
-/

namespace SecureDialogues

open Text Memory

variable {b w d i : Nat} (P : Machine b w d i) (restore_str : Reader Str)

/-! ## Dialogs -/

namespace DialogMarshaller

/-- `DialogMarshaller::restore` (`dialogmarshaller.cpp:13-25`). -/
def restore (_elem : Dialog w) : Reader (Dialog w) := do
  let dialogId ← restore_str
  let contactId ← restore_str
  let st ← restoreSimpleType P.status
  let peerSequental ← restoreSimpleType P.sequental
  let thisSequental ← restoreSimpleType P.sequental
  return {
    mContactId := contactId
    mDialogId := dialogId
    mPeerSequental := peerSequental
    mThisSequental := thisSequental
    mStatus := st }

/-- What `DialogMarshaller::size` adds up. -/
def total (element : Dialog w) : Nat :=
  sizeofStr P element.mDialogId + (sizeofStr P element.mContactId +
    (P.status.size + (P.sequental.size + P.sequental.size)))

/-- `DialogMarshaller::size` (`dialogmarshaller.cpp:27-35`), a sum in `uint32_t`. -/
def size (element : Dialog w) : BitVec 32 := BitVec.ofNat 32 (total P element)

/-- `DialogMarshaller::store` (`dialogmarshaller.cpp:37-43`). -/
def store (elem : Dialog w) : Writer Unit := do
  saveStr P elem.mDialogId
  saveStr P elem.mContactId
  storeSimpleType P.status elem.mStatus
  storeSimpleType P.sequental elem.mPeerSequental
  storeSimpleType P.sequental elem.mThisSequental

end DialogMarshaller

/-! ## Contacts -/

namespace ContactMarshaller

/-- `ContactMarshaller::restore` (`contactmarshaller.cpp:5-13`); the public key stands before the
id in the braces. -/
def restore (_elem : Contact) : Reader Contact := do
  let channelMoniker ← restore_str
  let name ← restore_str
  let adress ← restore_str
  let contactId ← restore_str
  let publicKey ← restore_str
  return {
    channelMoniker := channelMoniker
    name := name
    adress := adress
    publicKey := publicKey
    id := contactId }

/-- What `ContactMarshaller::size` adds up. -/
def total (element : Contact) : Nat :=
  sizeofStr P element.channelMoniker + (sizeofStr P element.name +
    (sizeofStr P element.adress + (sizeofStr P element.id + sizeofStr P element.publicKey)))

/-- `ContactMarshaller::size` (`contactmarshaller.cpp:15-23`), a sum in `uint32_t`. -/
def size (element : Contact) : BitVec 32 := BitVec.ofNat 32 (total P element)

/-- `ContactMarshaller::store` (`contactmarshaller.cpp:25-31`). -/
def store (elem : Contact) : Writer Unit := do
  saveStr P elem.channelMoniker
  saveStr P elem.name
  saveStr P elem.adress
  saveStr P elem.id
  saveStr P elem.publicKey

end ContactMarshaller

/-! ## Discovered contacts -/

namespace DiscoveredContactMarshaller

/-- `DiscoveredContactMarshaller::restore` (`discoveredcontactmarshaller.cpp:7-24`). -/
def restore (_elem : DiscoveredContact) : Reader DiscoveredContact := do
  let duration ← restoreSimpleType P.duration
  let channel_moniker ← restore_str
  let contact_adress ← restore_str
  let public_key ← restore_str
  let name ← restore_str
  let dialog_id ← restore_str
  return {
    created := duration.toInt
    channelMoniker := channel_moniker
    contactAdress := contact_adress
    publicKey := public_key
    name := name
    dialogId := dialog_id }

/-- What `DiscoveredContactMarshaller::size` adds up. -/
def total (element : DiscoveredContact) : Nat :=
  P.duration.size + (sizeofStr P element.channelMoniker +
    (sizeofStr P element.contactAdress + (sizeofStr P element.publicKey +
      (sizeofStr P element.name + sizeofStr P element.dialogId))))

/-- `DiscoveredContactMarshaller::size` (`discoveredcontactmarshaller.cpp:26-35`), a sum in
`uint32_t`. -/
def size (element : DiscoveredContact) : BitVec 32 := BitVec.ofNat 32 (total P element)

/-- `DiscoveredContactMarshaller::store` (`discoveredcontactmarshaller.cpp:37-45`). -/
def store (elem : DiscoveredContact) : Writer Unit := do
  storeSimpleType P.duration (BitVec.ofInt d elem.created)
  saveStr P elem.channelMoniker
  saveStr P elem.contactAdress
  saveStr P elem.publicKey
  saveStr P elem.name
  saveStr P elem.dialogId

end DiscoveredContactMarshaller

/-! ## Nothing is lost -/

/-- A time that the clock's type can tell. -/
def IsTick (d : Nat) (time : Int) : Prop := (BitVec.ofInt d time).toInt = time

instance (d : Nat) (time : Int) : Decidable (IsTick d time) := inferInstanceAs (Decidable (_ = _))

variable {restore_str} {P}

namespace DialogMarshaller

/-- The store keeps the dialog. -/
def Keeps (P : Machine b w d i) (restore_str : Reader Str) (x : Dialog w) : Prop :=
  Survives (size P x) (store P x) (restore P restore_str) x

/-- The layout of a dialog. -/
def bytes (P : Machine b w d i) (x : Dialog w) : Str :=
  strBytes P x.mDialogId ++ (strBytes P x.mContactId ++ (P.status.toBytes x.mStatus ++
    (P.sequental.toBytes x.mPeerSequental ++ P.sequental.toBytes x.mThisSequental)))

theorem writes_store (x : Dialog w) : Writes (store P x) (bytes P x) :=
  (writes_saveStr P _).seq ((writes_saveStr P _).seq ((writes_storeSimpleType _ _).seq
    ((writes_storeSimpleType _ _).seq (writes_storeSimpleType _ _))))

theorem reads_restore (restores : RestoresStr P restore_str) {x : Dialog w}
    (small : total P x < 2 ^ 32) (old : Dialog w) :
    Reads (restore P restore_str old) (bytes P x) x := by
  have first := restores.reads x.mDialogId (by unfold total; omega) small
  have second := restores.reads x.mContactId (by unfold total; omega) small
  exact first.bind (second.bind ((reads_restoreSimpleType _ _).bind
    ((reads_restoreSimpleType _ _).bind ((reads_restoreSimpleType _ _).map _))))

theorem survives (restores : RestoresStr P restore_str) {x : Dialog w}
    (small : total P x < 2 ^ 32) :
    Keeps P restore_str x := by
  have length : (bytes P x).length = total P x := by simp [bytes, total]
  exact survives_of_reads length small (writes_store x) (reads_restore restores small)

end DialogMarshaller

namespace ContactMarshaller

/-- The store keeps the contact. -/
def Keeps (P : Machine b w d i) (restore_str : Reader Str) (x : Contact) : Prop :=
  Survives (size P x) (store P x) (restore restore_str) x

/-- The layout of a contact. -/
def bytes (P : Machine b w d i) (x : Contact) : Str :=
  strBytes P x.channelMoniker ++ (strBytes P x.name ++ (strBytes P x.adress ++
    (strBytes P x.id ++ strBytes P x.publicKey)))

theorem writes_store (x : Contact) : Writes (store P x) (bytes P x) :=
  (writes_saveStr P _).seq ((writes_saveStr P _).seq ((writes_saveStr P _).seq
    ((writes_saveStr P _).seq (writes_saveStr P _))))

theorem reads_restore (restores : RestoresStr P restore_str) {x : Contact}
    (small : total P x < 2 ^ 32) (old : Contact) :
    Reads (restore restore_str old) (bytes P x) x := by
  have first := restores.reads x.channelMoniker (by unfold total; omega) small
  have second := restores.reads x.name (by unfold total; omega) small
  have third := restores.reads x.adress (by unfold total; omega) small
  have fourth := restores.reads x.id (by unfold total; omega) small
  have fifth := restores.reads x.publicKey (by unfold total; omega) small
  exact first.bind (second.bind (third.bind (fourth.bind (fifth.map _))))

theorem survives (restores : RestoresStr P restore_str) {x : Contact}
    (small : total P x < 2 ^ 32) :
    Keeps P restore_str x := by
  have length : (bytes P x).length = total P x := by simp [bytes, total]
  exact survives_of_reads length small (writes_store x) (reads_restore restores small)

end ContactMarshaller

namespace DiscoveredContactMarshaller

/-- The store keeps the stranger. -/
def Keeps (P : Machine b w d i) (restore_str : Reader Str) (x : DiscoveredContact) : Prop :=
  Survives (size P x) (store P x) (restore P restore_str) x

/-- The layout of a stranger. -/
def bytes (P : Machine b w d i) (x : DiscoveredContact) : Str :=
  P.duration.toBytes (BitVec.ofInt d x.created) ++ (strBytes P x.channelMoniker ++
    (strBytes P x.contactAdress ++ (strBytes P x.publicKey ++
      (strBytes P x.name ++ strBytes P x.dialogId))))

theorem writes_store (x : DiscoveredContact) : Writes (store P x) (bytes P x) :=
  (writes_storeSimpleType _ _).seq ((writes_saveStr P _).seq ((writes_saveStr P _).seq
    ((writes_saveStr P _).seq ((writes_saveStr P _).seq (writes_saveStr P _)))))

/-- The time comes back as the clock's type tells it. -/
theorem reads_restore (restores : RestoresStr P restore_str) {x : DiscoveredContact}
    (small : total P x < 2 ^ 32) (old : DiscoveredContact) :
    Reads (restore P restore_str old) (bytes P x)
      { x with created := (BitVec.ofInt d x.created).toInt } := by
  have first := restores.reads x.channelMoniker (by unfold total; omega) small
  have second := restores.reads x.contactAdress (by unfold total; omega) small
  have third := restores.reads x.publicKey (by unfold total; omega) small
  have fourth := restores.reads x.name (by unfold total; omega) small
  have fifth := restores.reads x.dialogId (by unfold total; omega) small
  exact (reads_restoreSimpleType _ _).bind
    (first.bind (second.bind (third.bind (fourth.bind (fifth.map _)))))

theorem survives (restores : RestoresStr P restore_str) {x : DiscoveredContact}
    (tick : IsTick d x.created) (small : total P x < 2 ^ 32) :
    Keeps P restore_str x := by
  have length : (bytes P x).length = total P x := by simp [bytes, total]
  have same : { x with created := (BitVec.ofInt d x.created).toInt } = x := by rw [tick]
  apply survives_of_reads length small (writes_store x)
  intro old
  have reads := reads_restore restores small old
  rwa [same] at reads

end DiscoveredContactMarshaller

/-- What the database stores of a dialog, a contact or a stranger comes back as it was: the size
that is asked for is the size of what is written, and whatever follows it does not matter. -/
theorem stored_records_survive (restores : RestoresStr P restore_str) :
    (∀ x : Dialog w, DialogMarshaller.total P x < 2 ^ 32 →
      DialogMarshaller.Keeps P restore_str x) ∧
    (∀ x : Contact, ContactMarshaller.total P x < 2 ^ 32 →
      ContactMarshaller.Keeps P restore_str x) ∧
    (∀ x : DiscoveredContact, IsTick d x.created → DiscoveredContactMarshaller.total P x < 2 ^ 32 →
      DiscoveredContactMarshaller.Keeps P restore_str x) := by
  refine ⟨?_, ?_, ?_⟩
  · intro x small
    exact DialogMarshaller.survives restores small
  · intro x small
    exact ContactMarshaller.survives restores small
  · intro x tick small
    exact DiscoveredContactMarshaller.survives restores tick small

/-- A dialog, its contact and a stranger on the machine above. -/
theorem stored_records_survive_littleEndian :
    DialogMarshaller.Keeps littleEndianMachine (restoreStr littleEndianMachine [])
      ⟨str "d", str "ann", .createRequest, 1, 2⟩ ∧
    ContactMarshaller.Keeps littleEndianMachine (restoreStr littleEndianMachine [])
      ⟨str "smtp", str "Ann", str "ann@home", str "ann", str "key"⟩ ∧
    DiscoveredContactMarshaller.Keeps littleEndianMachine (restoreStr littleEndianMachine [])
      ⟨-1, str "smtp", str "bob@home", str "key", str "Bob", str "d"⟩ := by
  have records := stored_records_survive (reads_restoreStr littleEndianMachine)
  refine ⟨records.1 _ ?_, records.2.1 _ ?_, records.2.2 _ ?_ ?_⟩
  all_goals decide +kernel

end SecureDialogues
