import SecureDialogues.Stepwise.Provenance

/-!
# What lasts while operations run at the same time

An operation that keeps the discipline of findings removes no dialog, never changes a dialog's
contact and never replaces a session key. So whatever the operations have found out stays true, and
the findings can be read as facts about the shared state.
-/

namespace SecureDialogues

open Text Effect

section

variable {w : Nat} (p : Platform w) (routed : Prop) (turns : List (Threads.Turn w))

/-! ## What the findings say -/

/-- The dialog is stored, and its contact is reached at this address over this channel. -/
def Core.Reaches (s : Core w) (dialogId address channel : Str) : Prop :=
  ∃ dialog contact, s.mDialogStorage.find dialogId = some dialog ∧
    s.mContactStorage[dialog.mContactId]? = some contact ∧ contact.adress = address ∧
    contact.channelMoniker = channel

/-- One of the operations was started in this world. -/
def IsWorld (env : Env w) : Prop := ∃ operation, .start env operation ∈ turns

/-- The signature of the message was made over its text, with this in the signature field. -/
def IsSignedWith (message : DialogMessage w) (field : Str) : Prop :=
  ∃ env log, IsWorld turns env ∧
    env.createSign log (printMessage message field) = .ok message.mSign

/-- The content is the text under the session key of the dialog. -/
def IsEncrypted (s : Core w) (dialogId text content : Str) : Prop :=
  ∃ element, s.mCiphers[dialogId]? = some element ∧ p.aesEncrypt element.cipher text = .ok content

/-- The content is a session key and a verification string, both under the public key that is
registered for the address. -/
def IsExported (s : Core w) (address content : Str) : Prop :=
  ∃ env key message check, IsWorld turns env ∧ getRemoteByAdress p s.mRemote address = .ok key ∧
    env.rsaEncrypt key env.aesKey.serialize = .ok message ∧
    env.rsaEncrypt key env.resStr = .ok check ∧ content = message ++ str "," ++ check

def Finding.Holds (s : Core w) : Finding w → Prop
  | .direction dialogId address channel => routed → s.Reaches dialogId address channel
  | .signature message field => IsSignedWith turns message field
  | .text dialogId content => ∃ text, Typed turns text ∧ IsEncrypted p s dialogId text content
  | .verification dialogId content => ∃ text, IsEncrypted p s dialogId text content
  | .key address content => IsExported p turns s address content

/-- The dialogs that were seen are stored with the contacts they were seen with, and the other
findings hold. -/
structure Findings.AreTrue (notes : Findings w) (s : Core w) : Prop where
  bound : ∀ dialogId contactId, notes.bound dialogId = some contactId →
    ∃ dialog, s.mDialogStorage.find dialogId = some dialog ∧ dialog.mContactId = contactId
  found : ∀ finding ∈ notes.found, finding.Holds p routed turns s

/-! ## What lasts -/

/-- Every stored dialog stays and keeps its contact and its session key, and the contacts and their
public keys stay as they are. -/
structure Lasting (s s' : Core w) : Prop where
  bound : ∀ dialogId dialog, s.mDialogStorage.find dialogId = some dialog →
    ∃ dialog', s'.mDialogStorage.find dialogId = some dialog' ∧
      dialog'.mContactId = dialog.mContactId
  ciphers : ∀ (dialogId : Str) element, s.mCiphers[dialogId]? = some element →
    s'.mCiphers[dialogId]? = some element
  contacts : s'.mContactStorage = s.mContactStorage
  remote : s'.mRemote = s.mRemote

variable {p routed turns} {s s' : Core w}

theorem Lasting.refl (s : Core w) : Lasting s s where
  bound _ dialog found := ⟨dialog, found, rfl⟩
  ciphers _ _ found := found
  contacts := rfl
  remote := rfl

instance : Std.Refl (Lasting (w := w)) := ⟨Lasting.refl⟩

theorem Lasting.trans {s'' : Core w} (first : Lasting s s') (second : Lasting s' s'') :
    Lasting s s'' where
  bound dialogId dialog found := by
    obtain ⟨dialog', found', same⟩ := first.bound dialogId dialog found
    obtain ⟨dialog'', found'', same'⟩ := second.bound dialogId dialog' found'
    exact ⟨dialog'', found'', same'.trans same⟩
  ciphers dialogId element found := second.ciphers _ _ (first.ciphers dialogId element found)
  contacts := second.contacts.trans first.contacts
  remote := second.remote.trans first.remote

theorem Lasting.reaches (lasting : Lasting s s') {dialogId address channel : Str}
    (reaches : s.Reaches dialogId address channel) : s'.Reaches dialogId address channel := by
  obtain ⟨dialog, contact, found, stored, place⟩ := reaches
  obtain ⟨dialog', found', same⟩ := lasting.bound dialogId dialog found
  refine ⟨dialog', contact, found', ?_, place⟩
  rw [lasting.contacts, same]
  exact stored

theorem Lasting.isEncrypted (lasting : Lasting s s') {dialogId text content : Str}
    (encrypted : IsEncrypted p s dialogId text content) :
    IsEncrypted p s' dialogId text content := by
  obtain ⟨element, found, result⟩ := encrypted
  exact ⟨element, lasting.ciphers dialogId element found, result⟩

theorem Lasting.isExported (lasting : Lasting s s') {address content : Str}
    (exported : IsExported p turns s address content) : IsExported p turns s' address content := by
  obtain ⟨env, key, message, check, world, known, rest⟩ := exported
  refine ⟨env, key, message, check, world, ?_, rest⟩
  rw [lasting.remote]
  exact known

theorem Lasting.holds (lasting : Lasting s s') {finding : Finding w}
    (holds : finding.Holds p routed turns s) : finding.Holds p routed turns s' := by
  cases finding with
  | direction => exact fun route => lasting.reaches (holds route)
  | signature => exact holds
  | text dialogId content =>
    obtain ⟨text, typed, encrypted⟩ := holds
    exact ⟨text, typed, lasting.isEncrypted encrypted⟩
  | verification dialogId content =>
    obtain ⟨text, encrypted⟩ := holds
    exact ⟨text, lasting.isEncrypted encrypted⟩
  | key => exact lasting.isExported holds

theorem Lasting.areTrue (lasting : Lasting s s') {notes : Findings w}
    (truth : notes.AreTrue p routed turns s) : notes.AreTrue p routed turns s' where
  bound dialogId contactId seen := by
    obtain ⟨dialog, found, same⟩ := truth.bound dialogId contactId seen
    obtain ⟨dialog', found', same'⟩ := lasting.bound dialogId dialog found
    exact ⟨dialog', found', same'.trans same⟩
  found finding member := lasting.holds (truth.found finding member)

/-! ## What a step does -/

/-- The step works on neither the session keys nor the pending deliveries. -/
def Atom.isPlain : Atom w → Bool
  | .generateAndExportKey _ _ | .importKey _ _ | .removeDialog _ | .storeDelivery _ _ _
  | .eraseDelivery _ => false
  | _ => true

theorem Atom.exec_plain (env : Env w) {a : Atom w} (plain : a.isPlain = true) :
    Eff.Leaves (fun s => (s.mCiphers, s.mRepo)) (a.exec p env) := by
  cases a with
  | generateAndExportKey | importKey | removeDialog | storeDelivery | eraseDelivery => cases plain
  | transmit channel message => exact channelSendMessage_leaves env (fun _ _ => rfl) channel message
  | addToActiveDialog message =>
    exact addToActiveDialogWithWrapper_leaves p (fun _ _ => rfl) message
  | addDialog | addDiscovered =>
    apply Eff.Leaves.bind (.reads _)
    intro stored
    split
    · exact .raise _
    · exact .update fun _ => rfl
  | wrapper | getContact | createSignature | checkVerificationString | encryptMessageBody
  | decryptMessageBody => exact .readsOr _
  | _ => exact fun _ => rfl

/-- A part of the key exchange leaves the ciphers that are there. -/
theorem KeyStep.ciphers {dialogId : Str} (keyStep : KeyStep dialogId s s') (other : Str)
    (element : DialogElement) (found : s.mCiphers[other]? = some element) :
    s'.mCiphers[other]? = some element := by
  rcases keyStep with rfl | ⟨installed, rfl⟩
  · exact found
  · unfold Core.emplaceCipher
    split
    · exact found
    · rename_i absent
      show (s.mCiphers.insert dialogId installed)[other]? = some element
      rw [getElem?_insert, if_neg]
      · exact found
      · rintro rfl
        exact absent (Std.ExtTreeMap.mem_iff_isSome_getElem?.mpr (by rw [found]; rfl))

theorem keyStep_exec (env : Env w) {a : Atom w} {dialogId : Str}
    (exchanges : (∃ address, a = .generateAndExportKey dialogId address) ∨
      ∃ text, a = .importKey dialogId text) : KeyStep dialogId s (a.exec p env s).2 := by
  rcases exchanges with ⟨address, rfl⟩ | ⟨text, rfl⟩
  · obtain ⟨r, s', result, keyStep, -⟩ := generateAndExportKey_cases p env dialogId address s
    simp only [Atom.exec, result]
    exact keyStep
  · obtain ⟨r, s', result, keyStep, -⟩ := importKey_cases p
      (.make 0 .verifyKey text dialogId [] 0 [] : DialogMessage w) s
    have same : importKey p dialogId text s = (r, s') := result
    simp only [Atom.exec, same]
    exact keyStep

/-- The session keys last through every step but the removal of a dialog. -/
theorem ciphers_exec (env : Env w) {a : Atom w} (stays : ∀ dialogId, a ≠ .removeDialog dialogId)
    (dialogId : Str) (element : DialogElement) (found : s.mCiphers[dialogId]? = some element) :
    (a.exec p env s).2.mCiphers[dialogId]? = some element := by
  cases plain : a.isPlain with
  | true =>
    have same : (a.exec p env s).2.mCiphers = s.mCiphers :=
      congrArg Prod.fst (Atom.exec_plain (p := p) env plain s)
    rw [same]
    exact found
  | false =>
    cases a with
    | generateAndExportKey installed address =>
      exact (keyStep_exec env (.inl ⟨address, rfl⟩)).ciphers dialogId element found
    | importKey installed text =>
      exact (keyStep_exec env (.inr ⟨text, rfl⟩)).ciphers dialogId element found
    | removeDialog removed => exact absurd rfl (stays removed)
    | storeDelivery | eraseDelivery => exact found
    | _ => cases plain

/-- What a permitted step leaves as it is. -/
theorem lasting_exec (env : Env w) {contacts : Table Contact} {notes : Findings w} {a : Atom w}
    (truth : notes.AreTrue p routed turns s) (guard : (provenance routed contacts turns).guard notes a) :
    Lasting s (a.exec p env s).2 := by
  have same := Atom.exec_contacts p env a s
  have stays : ∀ dialogId, a ≠ .removeDialog dialogId := by
    rintro dialogId rfl
    exact guard
  refine ⟨?_, fun dialogId element => ciphers_exec env stays dialogId element,
    congrArg Prod.fst same, congrArg Prod.snd same⟩
  intro dialogId dialog found
  cases writes : a.writesDialogs with
  | false =>
    have dialogs : (a.exec p env s).2.mDialogStorage = s.mDialogStorage :=
      Atom.exec_mDialogStorage p env writes s
    rw [dialogs]
    exact ⟨dialog, found, rfl⟩
  | true =>
    cases a with
    | saveDialog saved =>
      obtain ⟨before, stored, sameContact⟩ := truth.bound _ _ guard
      show ∃ dialog', (s.mDialogStorage.put saved).find dialogId = some dialog' ∧ _
      rw [DialogStorage.find_put]
      split
      · rename_i sameId
        rw [sameId, found] at stored
        cases stored
        exact ⟨saved, rfl, sameContact.symm⟩
      · exact ⟨dialog, found, rfl⟩
    | addDialog added =>
      cases taken : s.mDialogStorage.has added.mDialogId with
      | true =>
        refine ⟨dialog, ?_, rfl⟩
        simp only [Atom.exec, addDialog_of_has p taken]
        exact found
      | false =>
        refine ⟨dialog, ?_, rfl⟩
        simp only [Atom.exec, addDialog_of_new p taken]
        show (s.mDialogStorage.put added).find dialogId = some dialog
        rw [DialogStorage.find_put, if_neg]
        · exact found
        · rintro rfl
          rw [has_eq_false.mp taken] at found
          cases found
    | removeDialog removed => exact absurd rfl (stays removed)
    | _ => cases writes

/-! ## What a step finds out -/

theorem importKey_returns {dialogId text content : Str}
    (returned : (importKey p dialogId text s).1 = .ok content) :
    ∃ decr, IsEncrypted p (importKey p dialogId text s).2 dialogId decr content := by
  unfold importKey at returned ⊢
  simp only [Eff.readsOr_bind] at returned ⊢
  cases cipher : createSymmetricalCipherFrom p (splitKeyText text).1 with
  | error e =>
    rw [cipher] at returned
    cases returned
  | ok key =>
    simp only [cipher, Eff.update_bind, Eff.readsOr_bind] at returned ⊢
    cases read : p.rsaDecrypt (splitKeyText text).2 with
    | error e =>
      rw [read] at returned
      cases returned
    | ok decr =>
      simp only [read] at returned ⊢
      have result := Eff.eq_ok_of_readsOr returned
      have element := emplaceCipher_mCiphers_self s dialogId { cipher := key, myString := [] }
      rw [element] at result
      rw [Eff.readsOr_ok (by rw [element]; exact result)]
      exact ⟨decr, _, element, result⟩

theorem generateAndExportKey_returns {env : Env w} {dialogId address content : Str}
    (returned : (generateAndExportKey p env dialogId address s).1 = .ok content) :
    ∃ key message check, getRemoteByAdress p s.mRemote address = .ok key ∧
      env.rsaEncrypt key env.aesKey.serialize = .ok message ∧
      env.rsaEncrypt key env.resStr = .ok check ∧ content = message ++ str "," ++ check := by
  unfold generateAndExportKey at returned
  simp only [Eff.readsOr_bind] at returned
  cases peer : getRemoteByAdress p s.mRemote address with
  | error e =>
    rw [peer] at returned
    cases returned
  | ok key =>
    simp only [peer, generateSymmetricalCipherTo] at returned
    cases encrypted : env.rsaEncrypt key env.aesKey.serialize with
    | error e =>
      rw [encrypted] at returned
      cases returned
    | ok message =>
      rw [encrypted] at returned
      change ((Eff.update _ >>= _ : M w Str) s).1 = _ at returned
      simp only [Eff.update_bind, Eff.readsOr_bind] at returned
      cases checked : env.rsaEncrypt key env.resStr with
      | error e =>
        rw [checked] at returned
        cases returned
      | ok check =>
        rw [checked] at returned
        exact ⟨key, message, check, rfl, encrypted, checked, (Except.ok.inj returned).symm⟩

theorem Findings.AreTrue.add {notes : Findings w} (truth : notes.AreTrue p routed turns s)
    {finding : Finding w} (holds : finding.Holds p routed turns s) :
    (notes.add finding).AreTrue p routed turns s where
  bound := truth.bound
  found other member := by
    rcases List.mem_cons.mp member with rfl | earlier
    · exact holds
    · exact truth.found other earlier

theorem Findings.AreTrue.bind {notes : Findings w} (truth : notes.AreTrue p routed turns s)
    {dialogId : Str} {dialog : Dialog w} (found : s.mDialogStorage.find dialogId = some dialog) :
    (notes.bind dialogId dialog.mContactId).AreTrue p routed turns s where
  bound other contactId seen := by
    rw [Findings.bound_bind] at seen
    split at seen
    · rename_i same
      rw [same]
      exact ⟨dialog, found, Option.some.inj seen⟩
    · exact truth.bound other contactId seen
  found := truth.found

/-- A pending ABORT would go to the contact of its dialog. -/
def DeliveryHandler.IsAddressed (s : Core w) : DeliveryHandler → Prop
  | .dialogAction dialogId _ _ mAddress mChannel => s.Reaches dialogId mAddress mChannel
  | .messageNotDeliveried _ _ => True

/-- Every pending delivery of a state. -/
def PendingAddressed (s : Core w) : Prop :=
  ∀ (k : NumberedKey w) stored, s.mRepo[k]? = some stored → stored.element.IsAddressed s

theorem Lasting.isAddressed (lasting : Lasting s s') {handler : DeliveryHandler}
    (addressed : handler.IsAddressed s) : handler.IsAddressed s' := by
  cases handler with
  | dialogAction => exact lasting.reaches addressed
  | messageNotDeliveried => trivial

theorem Findings.AreTrue.reaches {notes : Findings w} (truth : notes.AreTrue p routed turns s)
    {dialogId address channel : Str} (route : routed)
    (reaches : notes.Reaches s.mContactStorage dialogId address channel) :
    s.Reaches dialogId address channel := by
  rcases reaches with found | ⟨contactId, contact, seen, stored, place⟩
  · exact truth.found _ found route
  · obtain ⟨dialog, found, rfl⟩ := truth.bound dialogId contactId seen
    exact ⟨dialog, contact, found, stored, place⟩

theorem pendingAddressed_exec (env : Env w) {notes : Findings w} {a : Atom w} (route : routed)
    (truth : notes.AreTrue p routed turns s) (guard : (provenance routed s.mContactStorage turns).guard notes a)
    (pending : PendingAddressed s) : PendingAddressed (a.exec p env s).2 := by
  have lasting := lasting_exec env truth guard
  have still : ∀ (k : NumberedKey w) stored, s.mRepo[k]? = some stored →
      stored.element.IsAddressed (a.exec p env s).2 := by
    intro k stored found
    exact lasting.isAddressed (pending k stored found)
  have unchanged : (a.exec p env s).2.mRepo = s.mRepo → PendingAddressed (a.exec p env s).2 := by
    intro same k stored found
    rw [same] at found
    exact still k stored found
  cases plain : a.isPlain with
  | true => exact unchanged (congrArg Prod.snd (Atom.exec_plain (p := p) env plain s))
  | false =>
    have exchanged : ∀ {dialogId : Str} {s' : Core w}, KeyStep dialogId s s' →
        s'.mRepo = s.mRepo := by
      rintro dialogId s' (rfl | ⟨element, rfl⟩)
      · rfl
      · exact (emplaceCipher_frame s dialogId element).2.2.2.2
    cases a with
    | generateAndExportKey dialogId address =>
      exact unchanged (exchanged (keyStep_exec env (.inl ⟨address, rfl⟩)))
    | importKey dialogId text =>
      exact unchanged (exchanged (keyStep_exec env (.inr ⟨text, rfl⟩)))
    | removeDialog dialogId => exact absurd guard id
    | storeDelivery handler key timeout =>
      intro k stored found
      change (s.mRepo.store env.systemClock handler key timeout)[k]? = some stored at found
      rw [TimeoutedRepository.getElem?_store] at found
      split at found
      · cases found
        apply lasting.isAddressed
        cases handler with
        | dialogAction => exact truth.reaches route (guard route)
        | messageNotDeliveried => trivial
      · exact still k stored found
    | eraseDelivery key =>
      intro k stored found
      change (s.mRepo.erase key)[k]? = some stored at found
      rw [getElem?_erase] at found
      split at found
      · cases found
      · exact still k stored found
    | _ => cases plain

/-- Whatever a permitted step returns is possible. -/
theorem possible_exec (env : Env w) {notes : Findings w} (a : Atom w)
    (truth : notes.AreTrue p routed turns s) :
    (provenance routed s.mContactStorage turns).possible notes a (a.exec p env s).1 := by
  cases a with
  | wrapper dialogId =>
    cases found : s.mDialogStorage.find dialogId with
    | none =>
      simp only [Atom.exec, wrapper_of_none p found]
      trivial
    | some dialog =>
      simp only [Atom.exec, wrapper_of_some p found]
      refine ⟨DialogStorage.mDialogId_of_find found, ?_⟩
      intro contactId seen
      obtain ⟨stored, found', same⟩ := truth.bound dialogId contactId seen
      rw [found] at found'
      cases found'
      exact same
  | addDialog dialog =>
    cases taken : s.mDialogStorage.has dialog.mDialogId with
    | true =>
      simp only [Atom.exec, addDialog_of_has p taken]
      trivial
    | false =>
      simp only [Atom.exec, addDialog_of_new p taken]
      show notes.bound dialog.mDialogId = .none
      rw [Option.eq_none_iff_forall_ne_some]
      intro contactId seen
      obtain ⟨stored, found, -⟩ := truth.bound _ contactId seen
      rw [has_eq_false.mp taken] at found
      cases found
  | getContact contactId =>
    cases found : s.mContactStorage[contactId]? with
    | none =>
      simp only [Atom.exec, getContact_of_none p found]
      trivial
    | some contact =>
      simp only [Atom.exec, getContact_of_some p found]
      exact found
  | contactsAt address channel => exact rfl
  | addToActiveDialog message =>
    simp only [Atom.exec, MessageActionHandler.addToActiveDialogWithWrapper, Eff.reads_bind]
    cases s.mMessageContainer.addToActiveDialogWithWrapper message false with
    | none => trivial
    | some added => exact ⟨_, _, rfl⟩
  | _ => trivial

/-- What a permitted step has found out is true. -/
theorem noted_exec {env : Env w} {notes : Findings w} {a : Atom w}
    (world : IsWorld turns env) (truth : notes.AreTrue p routed turns s)
    (guard : (provenance routed s.mContactStorage turns).guard notes a)
    (pending : routed → PendingAddressed s) :
    ((provenance routed s.mContactStorage turns).note notes a (a.exec p env s).1).AreTrue p routed turns
      (a.exec p env s).2 := by
  have later := (lasting_exec env truth guard).areTrue truth
  cases outcome : (a.exec p env s).1 with
  | error e => cases a <;> exact later
  | ok x =>
    cases a with
    | wrapper dialogId =>
      have found := Eff.eq_ok_of_readsOr outcome
      split at found
      · rename_i dialog stored
        cases found
        apply later.bind
        simp only [Atom.exec, wrapper_of_some p stored]
        exact stored
      · cases found
    | addDialog dialog =>
      cases taken : s.mDialogStorage.has dialog.mDialogId with
      | true =>
        simp only [Atom.exec, addDialog_of_has p taken] at outcome
        cases outcome
      | false =>
        simp only [Atom.exec, addDialog_of_new p taken] at later ⊢
        apply later.bind
        exact DialogStorage.find_put_self dialog
    | overdueDelivery k =>
      cases found : s.mRepo.overdue env.systemClock k with
      | none =>
        cases outcome.symm.trans (congrArg Except.ok found)
        exact later
      | some handler =>
        cases outcome.symm.trans (congrArg Except.ok found)
        cases handler with
        | messageNotDeliveried => exact later
        | dialogAction =>
          obtain ⟨stored, entry, rest⟩ := TimeoutedRepository.overdue_eq_some s.mRepo found
          apply later.add
          intro route
          have addressed := pending route k stored entry
          rw [rest] at addressed
          exact (lasting_exec env truth guard).isAddressed addressed
    | createSignature message =>
      have made := Eff.eq_ok_of_readsOr outcome
      exact later.add ⟨env, s.log, world, made⟩
    | encryptMessageBody dialogId text =>
      have made := Eff.eq_ok_of_readsOr outcome
      unfold encryptMessageBody at made
      split at made
      · rename_i element installed
        apply later.add
        exact ⟨text, guard, element, ciphers_exec env (by simp) _ _ installed, made⟩
      · cases made
    | importKey dialogId text => exact later.add (importKey_returns outcome)
    | generateAndExportKey dialogId address =>
      obtain ⟨key, message, check, known, parts⟩ := generateAndExportKey_returns outcome
      apply later.add
      refine ⟨env, key, message, check, world, ?_, parts⟩
      rw [(lasting_exec env truth guard).remote]
      exact known
    | _ => exact later

end

end SecureDialogues
