import SecureDialogues.Crypto.KeyTable

/-!
# Which contact a message is from

The handlers look a contact up by address and channel (`dialogactionhandler.cpp:177-182`), the
cryptography by its address alone, in the order of the identifiers (`cryptosystemimpl.cpp:165-181`).
Both find the same contact as long as the first one with the address is on the channel.
-/

namespace SecureDialogues

open Text Effect

section

variable {w : Nat} (p : Platform w)

/-! ## The two ways of looking up -/

/-- The contact that a dialog is created with. -/
def contactAt (contacts : Table Contact) (address channel : Str) : Option Contact :=
  (DialogActionHandler.contactsAt contacts address channel).head?

/-- The first contact with an address, on whatever channel. -/
def firstAt (contacts : Table Contact) (address : Str) : Option Contact :=
  (contacts.toList.map Prod.snd).find? fun contact => contact.adress = address

/-- The public key of a contact. -/
def publicKeyOf (contact : Contact) : Option PublicKey :=
  match p.loadPublicKey contact.publicKey with
  | .ok key => some key
  | .error _ => none

/-- The key that `getRemoteByAdress` finds, if it does not throw. -/
def resolvedKey (mRemote : Table RemoteElement) (address : Str) : Option PublicKey :=
  match getRemoteByAdress p mRemote address with
  | .ok key => some key
  | .error _ => none

/-- The key with which the signature of a message is checked. -/
theorem isSignatureOk_of_resolvedKey {mRemote : Table RemoteElement} {message : DialogMessage w}
    {key : PublicKey} (resolved : resolvedKey p mRemote message.mAdress = some key) :
    isSignatureOk p mRemote message =
      p.isValid key (marshallExceptSignature message) message.mSign := by
  unfold resolvedKey at resolved
  cases found : getRemoteByAdress p mRemote message.mAdress with
  | error e =>
    rw [found] at resolved
    cases resolved
  | ok other =>
    rw [found] at resolved
    obtain rfl := Option.some.inj resolved
    simp only [isSignatureOk, found]
    rfl

/-- The key under which a session key is encrypted. -/
theorem generateAndExportKey_of_resolvedKey {env : Env w} {s : Core w} {dialogId address text : Str}
    {s' : Core w} (exported : generateAndExportKey p env dialogId address s = (.ok text, s')) :
    ∃ key messBody encrCheck, resolvedKey p s.mRemote address = some key ∧
      env.rsaEncrypt key env.aesKey.serialize = .ok messBody ∧
      env.rsaEncrypt key env.resStr = .ok encrCheck ∧
      text = messBody ++ str "," ++ encrCheck := by
  unfold generateAndExportKey at exported
  simp only [Eff.readsOr_bind] at exported
  unfold resolvedKey
  cases found : getRemoteByAdress p s.mRemote address with
  | error e =>
    rw [found] at exported
    cases exported
  | ok key =>
    rw [found] at exported
    simp only [generateSymmetricalCipherTo] at exported
    cases body : env.rsaEncrypt key env.aesKey.serialize with
    | error e =>
      rw [body] at exported
      cases exported
    | ok messBody =>
      rw [body] at exported
      change (Eff.update _ >>= _ : M w Str) s = (.ok text, s') at exported
      simp only [Eff.update_bind, Eff.readsOr_bind] at exported
      cases check : env.rsaEncrypt key env.resStr with
      | error e =>
        rw [check] at exported
        cases exported
      | ok encrCheck =>
        rw [check] at exported
        cases exported
        exact ⟨key, messBody, encrCheck, rfl, body, check, rfl⟩

/-! ## Lookup by address in a mirrored table -/

/-- The entry that `updateContact` makes of a contact. -/
def remoteElement (contact : Contact) : Option RemoteElement :=
  (publicKeyOf p contact).map fun key => { addres := contact.adress, mOperation := key }

variable {p}

theorem publicKeyOf_of_ok {contact : Contact} {key : PublicKey}
    (loaded : p.loadPublicKey contact.publicKey = .ok key) : publicKeyOf p contact = some key := by
  rw [publicKeyOf, loaded]

theorem remoteElement_of_isEntryOf {contact : Contact} {element : RemoteElement}
    (entry : IsEntryOf p contact element) : remoteElement p contact = some element := by
  rw [remoteElement, publicKeyOf_of_ok entry.2, Option.map_some, ← entry.1]

/-- Every stored contact has a loaded key. -/
theorem MirrorsContacts.loaded {s : Core w} (mirrors : MirrorsContacts p s) {contactId : Str}
    {contact : Contact} (stored : s.mContactStorage[contactId]? = some contact) :
    ∃ key, p.loadPublicKey contact.publicKey = .ok key := by
  have entry := mirrors contactId
  rw [stored] at entry
  obtain ⟨element, -, related⟩ := optionRel_some.mp entry
  exact ⟨_, related.2⟩

/-- A mirrored table is made of the entries of the contacts. -/
theorem MirrorsContacts.mRemote_eq {s : Core w} (mirrors : MirrorsContacts p s) :
    s.mRemote = s.mContactStorage.filterMap fun _ contact => remoteElement p contact := by
  apply Std.ExtTreeMap.ext_getElem?
  intro contactId
  rw [Std.ExtTreeMap.getElem?_filterMap]
  have entry := mirrors contactId
  cases stored : s.mContactStorage[contactId]? with
  | none =>
    rw [stored] at entry
    cases found : s.mRemote[contactId]? with
    | none => rfl
    | some element =>
      rw [found] at entry
      cases entry
  | some contact =>
    rw [stored] at entry
    obtain ⟨element, found, related⟩ := optionRel_some.mp entry
    rw [found]
    exact (remoteElement_of_isEntryOf related).symm

theorem resolvedKey_eq_find? (mRemote : Table RemoteElement) (address : Str) :
    resolvedKey p mRemote address =
      (mRemote.toList.find? fun element => element.2.addres == address).map (·.2.mOperation) := by
  unfold resolvedKey getRemoteByAdress
  cases mRemote.toList.find? fun element => element.2.addres == address <;> rfl

/-- The search through the entries finds the key of the first contact with the address. -/
theorem find?_remoteElements {contacts : List (Str × Contact)} (address : Str)
    (loaded : ∀ stored ∈ contacts, ∃ key, publicKeyOf p stored.2 = some key) :
    ((contacts.filterMap fun stored =>
        (remoteElement p stored.2).map fun element => (stored.1, element)).find?
          fun element => element.2.addres == address).map (·.2.mOperation) =
      ((contacts.map Prod.snd).find? fun contact => contact.adress = address).bind
        (publicKeyOf p) := by
  induction contacts with
  | nil => rfl
  | cons stored rest ih =>
    obtain ⟨key, found⟩ := loaded stored List.mem_cons_self
    have rest := ih fun other member => loaded other (List.mem_cons_of_mem _ member)
    have entry : remoteElement p stored.2 =
        some { addres := stored.2.adress, mOperation := key } := by
      rw [remoteElement, found, Option.map_some]
    rw [List.filterMap_cons, entry, Option.map_some, List.map_cons]
    by_cases same : stored.2.adress = address
    · rw [List.find?_cons_of_pos (by simpa using same),
        List.find?_cons_of_pos (by simpa using same), Option.map_some, Option.bind_some, found]
    · rw [List.find?_cons_of_neg (by simpa using same),
        List.find?_cons_of_neg (by simpa using same)]
      exact rest

theorem resolvedKey_eq {s : Core w} (mirrors : MirrorsContacts p s) (address : Str) :
    resolvedKey p s.mRemote address =
      (firstAt s.mContactStorage address).bind (publicKeyOf p) := by
  rw [resolvedKey_eq_find?, mirrors.mRemote_eq, Std.ExtTreeMap.toList_filterMap, firstAt]
  apply find?_remoteElements
  intro stored member
  have found := Std.ExtTreeMap.mem_toList_iff_getElem?_eq_some.mp member
  obtain ⟨key, loaded⟩ := mirrors.loaded found
  exact ⟨key, publicKeyOf_of_ok loaded⟩

/-- A contact that is found by its address has a loaded key. -/
theorem publicKeyOf_of_firstAt {s : Core w} (mirrors : MirrorsContacts p s) {address : Str}
    {first : Contact} (found : firstAt s.mContactStorage address = some first) :
    ∃ key, publicKeyOf p first = some key := by
  obtain ⟨⟨contactId, contact⟩, member, rfl⟩ := List.mem_map.mp (List.mem_of_find?_eq_some found)
  have stored := Std.ExtTreeMap.mem_toList_iff_getElem?_eq_some.mp member
  obtain ⟨key, loaded⟩ := mirrors.loaded stored
  exact ⟨key, publicKeyOf_of_ok loaded⟩

/-- The contact at an address and a channel is the first with both. -/
theorem contactAt_eq_find? (contacts : Table Contact) (address channel : Str) :
    contactAt contacts address channel = (contacts.toList.map Prod.snd).find? fun contact =>
      contact.adress = address ∧ contact.channelMoniker = channel := by
  rw [contactAt, DialogActionHandler.contactsAt, List.head?_filter]

/-- It is the first with the address if that one is on the channel. -/
theorem contactAt_of_firstAt {contacts : Table Contact} {address channel : Str} {first : Contact}
    (found : firstAt contacts address = some first) (onChannel : first.channelMoniker = channel) :
    contactAt contacts address channel = some first := by
  obtain ⟨hasAddress, before, after, split, others⟩ := List.find?_eq_some_iff_append.mp found
  rw [contactAt_eq_find?, List.find?_eq_some_iff_append]
  refine ⟨?_, before, after, split, ?_⟩
  · simpa [onChannel] using hasAddress
  · intro contact member
    have other := others contact member
    simp only [Bool.not_eq_true', decide_eq_false_iff_not] at other ⊢
    exact fun both => other both.1

theorem contactAt_of_none {contacts : Table Contact} {address : Str}
    (missing : firstAt contacts address = none) (channel : Str) :
    contactAt contacts address channel = none := by
  rw [contactAt_eq_find?, List.find?_eq_none]
  intro contact member both
  have absent := List.find?_eq_none.mp missing contact member
  simp only [decide_eq_true_eq] at absent both
  exact absent both.1

theorem adress_of_contactAt {contacts : Table Contact} {address channel : Str} {contact : Contact}
    (found : contactAt contacts address channel = some contact) : contact.adress = address := by
  rw [contactAt_eq_find?] at found
  have both := List.find?_some found
  simp only [decide_eq_true_eq] at both
  exact both.1

/-! ## Agreement -/

variable (p) in
/-- Both lookups come to the same contact: the signature of a message is checked with the key of
the contact at its address and channel, and so is the session key encrypted for that contact. -/
structure ResolvesSameContact (s : Core w) (message : DialogMessage w) (channel : Str) : Prop where
  signature : resolvedKey p s.mRemote message.mAdress =
    (contactAt s.mContactStorage message.mAdress channel).bind (publicKeyOf p)
  session : ∀ contact, contactAt s.mContactStorage message.mAdress channel = some contact →
    resolvedKey p s.mRemote contact.adress = publicKeyOf p contact

/-- A request for a dialog is answered for that contact. -/
theorem prepareNotFoundDialog_of_contactAt {env : Env w} {message : DialogMessage w}
    {channel : Str} {contact : Contact} (action : message.mAction = .createDialog) {s : Core w}
    (found : contactAt s.mContactStorage message.mAdress channel = some contact) :
    DialogActionHandler.prepareNotFoundDialog p env message channel s =
      DialogActionHandler.answerCreateDialog p env message contact s := by
  obtain ⟨rest, known⟩ : ∃ rest, DialogActionHandler.contactsAt s.mContactStorage message.mAdress
      channel = contact :: rest := List.head?_eq_some_iff.mp found
  unfold DialogActionHandler.prepareNotFoundDialog
  rw [if_neg (by simp [action]), if_pos action]
  simp only [Eff.reads_bind, known]

/-- The key found by the address is the one of the contact at the address and the channel. -/
theorem resolvedKey_eq_contactAt_iff {s : Core w} (mirrors : MirrorsContacts p s)
    (address channel : Str) :
    resolvedKey p s.mRemote address =
        (contactAt s.mContactStorage address channel).bind (publicKeyOf p) ↔
      ∀ first, firstAt s.mContactStorage address = some first → first.channelMoniker = channel ∨
        ∃ contact, contactAt s.mContactStorage address channel = some contact ∧
          publicKeyOf p contact = publicKeyOf p first := by
  rw [resolvedKey_eq mirrors]
  cases found : firstAt s.mContactStorage address with
  | none =>
    rw [contactAt_of_none found]
    simp
  | some first =>
    obtain ⟨key, loaded⟩ := publicKeyOf_of_firstAt mirrors found
    constructor
    · intro same other taken
      obtain rfl := Option.some.inj taken
      cases answered : contactAt s.mContactStorage address channel with
      | none =>
        rw [answered, Option.bind_some, loaded] at same
        cases same
      | some contact =>
        rw [answered] at same
        exact .inr ⟨contact, rfl, same.symm⟩
    · intro agree
      rcases agree first rfl with onChannel | ⟨contact, answered, same⟩
      · rw [contactAt_of_firstAt found onChannel]
      · rw [answered]
        exact same.symm

variable (p) in
/-- The two lookups agree on a message exactly if the first contact with its address, in the order
of the identifiers, is on its channel, or has the key of the contact that is. -/
theorem resolvesSameContact_iff {s : Core w} (mirrors : MirrorsContacts p s)
    (message : DialogMessage w) (channel : Str) :
    ResolvesSameContact p s message channel ↔
      ∀ first, firstAt s.mContactStorage message.mAdress = some first →
        first.channelMoniker = channel ∨
          ∃ contact, contactAt s.mContactStorage message.mAdress channel = some contact ∧
            publicKeyOf p contact = publicKeyOf p first := by
  rw [← resolvedKey_eq_contactAt_iff mirrors]
  constructor
  · intro resolves
    exact resolves.signature
  · intro signature
    refine ⟨signature, ?_⟩
    intro contact answered
    rw [adress_of_contactAt answered, signature, answered, Option.bind_some]

end

namespace Sample

/-- The peer's account on a second channel, with a key of its own. -/
def chatPeer : Contact where
  channelMoniker := str "chat"
  name := str "Peer in the chat"
  adress := peer.adress
  id := str "friend"
  publicKey := str "chat key"

/-- Both accounts become contacts. -/
def register : List (ContactCommand 64) := [.save peer true, .save chatPeer true]

/-- The program with both contacts. -/
def twoAccounts : Core 64 := Run.after (ContactCommand.next platform) Core.initial register

theorem twoAccounts_mirrorsContacts : MirrorsContacts platform twoAccounts := by
  have fresh : MirrorsContacts platform Core.initial := fun _ => .none
  have first := (next_mirrors_iff fresh (.save peer true)).mpr fun _ => .inl ⟨_, rfl⟩
  exact (next_mirrors_iff first (.save chatPeer true)).mpr fun _ => .inl ⟨_, rfl⟩

end Sample

theorem sample_resolvesSameContact :
    MirrorsContacts Sample.platform Sample.twoAccounts ∧
      ResolvesSameContact Sample.platform Sample.twoAccounts
        (Sample.incoming .createDialog 1 []) Sample.channel := by
  refine ⟨Sample.twoAccounts_mirrorsContacts, ?_⟩
  apply (resolvesSameContact_iff _ Sample.twoAccounts_mirrorsContacts _ _).mpr
  intro first found
  left
  have known : firstAt Sample.twoAccounts.mContactStorage Sample.peer.adress =
      some Sample.peer := by
    decide +kernel
  obtain rfl := Option.some.inj (found.symm.trans known)
  rfl

/-- A request over the second channel is checked, and would be answered, with the key of the
account on the first. -/
theorem other_account_key_used :
    MirrorsContacts Sample.platform Sample.twoAccounts ∧
      ¬ ResolvesSameContact Sample.platform Sample.twoAccounts
        (Sample.incoming .createDialog 1 []) Sample.chatPeer.channelMoniker := by
  refine ⟨Sample.twoAccounts_mirrorsContacts, ?_⟩
  intro resolves
  have signature := resolves.signature
  revert signature
  decide +kernel

end SecureDialogues
