import SecureDialogues.Communication.SendProps

/-!
# What the exchange of a session key does

`importKey` and `generateAndExportKey` install a cipher before the last thing that can fail, so an
exception does not tell whether the cipher table changed.
-/

namespace SecureDialogues

open Text Effect

section

variable {w : Nat} (p : Platform w) (env : Env w)

theorem emplaceCipher_mCiphers_self (s : Core w) (dialogId : Str) (element : DialogElement) :
    (s.emplaceCipher dialogId element).mCiphers[dialogId]? =
      some ((s.mCiphers[dialogId]?).getD element) := by
  unfold Core.emplaceCipher
  split
  · rename_i taken
    rw [Std.ExtTreeMap.mem_iff_isSome_getElem?, Option.isSome_iff_exists] at taken
    obtain ⟨old, present⟩ := taken
    simp [present]
  · rename_i new
    have absent : s.mCiphers[dialogId]? = none := by simpa using new
    rw [getElem?_insert, if_pos rfl, absent]
    rfl

/-- What `emplace` leaves alone. -/
theorem emplaceCipher_frame (s : Core w) (dialogId : Str) (element : DialogElement) :
    (s.emplaceCipher dialogId element).mDialogStorage = s.mDialogStorage ∧
    (s.emplaceCipher dialogId element).mContactStorage = s.mContactStorage ∧
    (s.emplaceCipher dialogId element).mRemote = s.mRemote ∧
    (s.emplaceCipher dialogId element).mChannels = s.mChannels ∧
    (s.emplaceCipher dialogId element).mRepo = s.mRepo := by
  unfold Core.emplaceCipher
  split <;> exact ⟨rfl, rfl, rfl, rfl, rfl⟩

/-- The state after a part of the key exchange: as it was, or with a cipher installed. -/
def KeyStep (dialogId : Str) (s s' : Core w) : Prop :=
  s' = s ∨ ∃ element, s' = s.emplaceCipher dialogId element

/-- What `importKey` needs to return: the key and the verification string are readable and the
cipher in use encrypts. -/
def ImportsKey (s : Core w) (message : DialogMessage w) : Prop :=
  ∃ key, createSymmetricalCipherFrom p (splitKeyText message.mContent).1 = .ok key ∧
    ∃ decr, p.rsaDecrypt (splitKeyText message.mContent).2 = .ok decr ∧
      ∃ text, p.aesEncrypt
        ((s.mCiphers[message.mDialogId]?).elim key (·.cipher)) decr = .ok text

theorem importKey_cases (message : DialogMessage w) (s : Core w) :
    ∃ r s', importKey p message.mDialogId message.mContent s = (r, s') ∧
      KeyStep message.mDialogId s s' ∧
      ((∃ text, r = .ok text) ∨ (∃ e, r = .error (.thrown e)) ∧ ¬ ImportsKey p s message) := by
  unfold importKey
  simp only [Eff.readsOr_bind]
  cases cipher : createSymmetricalCipherFrom p (splitKeyText message.mContent).1 with
  | error e =>
    refine ⟨_, _, rfl, .inl rfl, .inr ⟨⟨e, rfl⟩, ?_⟩⟩
    rintro ⟨key, readable, -⟩
    rw [cipher] at readable
    cases readable
  | ok key =>
    simp only [Eff.update_bind, Eff.readsOr_bind]
    cases decr : p.rsaDecrypt (splitKeyText message.mContent).2 with
    | error e =>
      refine ⟨_, _, rfl, .inr ⟨_, rfl⟩, .inr ⟨⟨e, rfl⟩, ?_⟩⟩
      rintro ⟨_, -, _, readable, -⟩
      rw [decr] at readable
      cases readable
    | ok decr' =>
      simp only
      have element := emplaceCipher_mCiphers_self s message.mDialogId
        { cipher := key, myString := [] }
      have inUse : ((s.mCiphers[message.mDialogId]?).getD
          { cipher := key, myString := [] }).cipher =
          (s.mCiphers[message.mDialogId]?).elim key (·.cipher) := by
        cases s.mCiphers[message.mDialogId]? <;> rfl
      cases text : p.aesEncrypt ((s.mCiphers[message.mDialogId]?).elim key (·.cipher)) decr' with
      | ok text' =>
        refine ⟨_, _, Eff.readsOr_ok (a := text') ?_, .inr ⟨_, rfl⟩, .inl ⟨text', rfl⟩⟩
        rw [element]
        simp only
        rw [inUse, text]
      | error e =>
        refine ⟨_, _, Eff.readsOr_error (e := e) ?_, .inr ⟨_, rfl⟩, .inr ⟨⟨e, rfl⟩, ?_⟩⟩
        · rw [element]
          simp only
          rw [inUse, text]
        · rintro ⟨_, readable, _, readable', _, encrypted⟩
          rw [cipher, Except.ok.injEq] at readable
          rw [decr, Except.ok.injEq] at readable'
          subst readable readable'
          rw [text] at encrypted
          cases encrypted

/-- What `generateAndExportKey` needs to return: a contact with the address, and twice an
encryption under its key. -/
def ExportsKey (s : Core w) (addres : Str) : Prop :=
  ∃ elem key verification, getRemoteByAdress p s.mRemote addres = .ok elem ∧
    env.rsaEncrypt elem env.aesKey.serialize = .ok key ∧
    env.rsaEncrypt elem env.resStr = .ok verification

theorem generateAndExportKey_cases (dialogId addres : Str) (s : Core w) :
    ∃ r s', generateAndExportKey p env dialogId addres s = (r, s') ∧ KeyStep dialogId s s' ∧
      ((∃ text, r = .ok text) ∧ ExportsKey p env s addres ∨
        (∃ e, r = .error (.thrown e)) ∧ ¬ ExportsKey p env s addres) := by
  unfold generateAndExportKey
  simp only [Eff.readsOr_bind]
  cases peer : getRemoteByAdress p s.mRemote addres with
  | error e =>
    refine ⟨_, _, rfl, .inl rfl, .inr ⟨⟨e, rfl⟩, ?_⟩⟩
    rintro ⟨elem, _, _, found, -⟩
    rw [peer] at found
    cases found
  | ok elem =>
    simp only [generateSymmetricalCipherTo]
    cases key : env.rsaEncrypt elem env.aesKey.serialize with
    | error e =>
      refine ⟨_, _, rfl, .inl rfl, .inr ⟨⟨e, rfl⟩, ?_⟩⟩
      rintro ⟨elem', _, _, found, encrypted, -⟩
      rw [peer, Except.ok.injEq] at found
      rw [← found, key] at encrypted
      cases encrypted
    | ok key' =>
      change ∃ r s', (Eff.update _ >>= _ : M w Str) s = (r, s') ∧ _
      simp only [Eff.update_bind, Eff.readsOr_bind]
      cases verification : env.rsaEncrypt elem env.resStr with
      | error e =>
        refine ⟨_, _, rfl, .inr ⟨_, rfl⟩, .inr ⟨⟨e, rfl⟩, ?_⟩⟩
        rintro ⟨elem', _, _, found, -, encrypted⟩
        rw [peer, Except.ok.injEq] at found
        rw [← found, verification] at encrypted
        cases encrypted
      | ok verification' =>
        exact ⟨_, _, rfl, .inr ⟨_, rfl⟩, .inl ⟨⟨_, rfl⟩, elem, key', verification', peer, key,
          verification⟩⟩

end

end SecureDialogues
