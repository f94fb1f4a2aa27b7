import SecureDialogues.Crypto.SessionKeys

/-!
# The installation of session keys

`generateAndExportKey` and `importKey` put the new cipher into the table with `emplace` before the
last steps that can throw, and `emplace` keeps an entry that is there. So an exception can leave a
new entry behind, and a return can leave an old one in place.
-/

namespace SecureDialogues

open Text Effect

section

variable {w : Nat} (p : Platform w) (env : Env w) (s : Core w) (dialogId : Str)

/-! ## All or nothing -/

/-- The table holds the cipher for the dialog, and what it held for the others. -/
def Installs (s s' : Core w) (dialogId : Str) (cipher : AesKeyStruct) : Prop :=
  (s'.mCiphers[dialogId]?).map (·.cipher) = some cipher ∧ KeepsOtherCiphers dialogId s s'

/-- `importKey` throws and changes no cipher, or returns and has installed the key of the text. -/
def ImportsAtomically (text : Str) : Prop :=
  match importKey p dialogId text s with
  | (.ok _, s') => ∃ cipher,
      createSymmetricalCipherFrom p (splitKeyText text).1 = .ok cipher ∧
        Installs s s' dialogId cipher
  | (.error _, s') => s'.mCiphers = s.mCiphers

/-- `generateAndExportKey` throws and changes no cipher, or returns and has installed the key that
stands before the comma of the export. -/
def ExportsAtomically (address : Str) : Prop :=
  match generateAndExportKey p env dialogId address s with
  | (.ok text, s') => ∃ elem cipher key verification,
      getRemoteByAdress p s.mRemote address = .ok elem ∧
        generateSymmetricalCipherTo env elem = .ok (cipher, key) ∧
        text = key ++ str "," ++ verification ∧ Installs s s' dialogId cipher
  | (.error _, s') => s'.mCiphers = s.mCiphers

/-- The verification string of the text can be read and encrypted again. -/
def Verifies (cipher : AesKeyStruct) (text : Str) : Prop :=
  ∃ decr answer, p.rsaDecrypt (splitKeyText text).2 = .ok decr ∧
    p.aesEncrypt cipher decr = .ok answer

/-- What a cipher goes to by `emplace` before a last part that may fail: a dialog without a cipher,
if the last part succeeds; and a dialog with a cipher, if that is the same or the last part fails. -/
def SoundOver (cipher : AesKeyStruct) (succeeds : Prop) : Option DialogElement → Prop
  | none => succeeds
  | some element => element.cipher = cipher ∨ ¬ succeeds

/-- If the text has a readable key, the installation is sound, where the last part is the
verification under the cipher in use. -/
def ImportsSoundly (text : Str) : Prop :=
  ∀ cipher, createSymmetricalCipherFrom p (splitKeyText text).1 = .ok cipher →
    SoundOver cipher (Verifies p ((s.mCiphers[dialogId]?).elim cipher (·.cipher)) text)
      s.mCiphers[dialogId]?

/-- If the new key can be encrypted for the peer, the installation is sound, where the last part is
the encryption of the verification string. -/
def ExportsSoundly (address : Str) : Prop :=
  ∀ elem key, getRemoteByAdress p s.mRemote address = .ok elem →
    env.rsaEncrypt elem env.aesKey.serialize = .ok key →
      SoundOver env.aesKey (∃ verification, env.rsaEncrypt elem env.resStr = .ok verification)
        s.mCiphers[dialogId]?

/-! ## What `emplace` does -/

/-- The table is as it was exactly if the dialog had an entry. -/
theorem emplaceCipher_unchanged_iff (element : DialogElement) :
    (s.emplaceCipher dialogId element).mCiphers = s.mCiphers ↔
      s.mCiphers[dialogId]? ≠ none := by
  constructor
  · intro same absent
    have installed := emplaceCipher_new absent element
    rw [same, absent] at installed
    cases installed
  · intro present
    have taken : dialogId ∈ s.mCiphers := by
      rw [Std.ExtTreeMap.mem_iff_isSome_getElem?]
      exact Option.isSome_iff_ne_none.mpr present
    rw [Core.emplaceCipher, if_pos taken]

/-- The new cipher is installed exactly if the dialog had none or the same. -/
theorem emplaceCipher_installs_iff (cipher : AesKeyStruct) (myString : Str) :
    Installs s (s.emplaceCipher dialogId { cipher, myString }) dialogId cipher ↔
      ∀ element, s.mCiphers[dialogId]? = some element → element.cipher = cipher := by
  rw [Installs, and_iff_left (emplaceCipher_keepsOtherCiphers _ _ _), emplaceCipher_mCiphers_self]
  cases s.mCiphers[dialogId]? <;> simp

/-- After an `emplace` the rest either succeeds, and then must have installed the cipher, or fails,
and then must have left the table alone. -/
theorem atomic_emplace_iff (cipher : AesKeyStruct) (myString : Str) (succeeds : Prop) :
    (succeeds ∧ Installs s (s.emplaceCipher dialogId { cipher, myString }) dialogId cipher ∨
      ¬ succeeds ∧ (s.emplaceCipher dialogId { cipher, myString }).mCiphers = s.mCiphers) ↔
      SoundOver cipher succeeds s.mCiphers[dialogId]? := by
  rw [emplaceCipher_installs_iff, emplaceCipher_unchanged_iff]
  cases present : s.mCiphers[dialogId]? with
  | none => simp [SoundOver]
  | some element => by_cases holds : succeeds <;> simp [SoundOver, holds]

variable {s dialogId}

/-! ## The import -/

variable (s dialogId) in
theorem importKey_of_unreadable {text : Str} {e : Exn}
    (unreadable : createSymmetricalCipherFrom p (splitKeyText text).1 = .error e) :
    importKey p dialogId text s = (.error (.thrown e), s) := by
  unfold importKey
  simp only [Eff.readsOr_bind, unreadable]

variable (s dialogId) in
/-- Once the cipher is in its place, the import returns exactly if the verification succeeds under
the cipher in use. -/
theorem importKey_of_readable {text : Str} {cipher : AesKeyStruct}
    (readable : createSymmetricalCipherFrom p (splitKeyText text).1 = .ok cipher) :
    ∃ r, importKey p dialogId text s =
        (r, s.emplaceCipher dialogId { cipher, myString := [] }) ∧
      ((∃ answer, r = .ok answer) ∧
          Verifies p ((s.mCiphers[dialogId]?).elim cipher (·.cipher)) text ∨
        (∃ e, r = .error (.thrown e)) ∧
          ¬ Verifies p ((s.mCiphers[dialogId]?).elim cipher (·.cipher)) text) := by
  have inUse := emplaceCipher_mCiphers_self s dialogId { cipher, myString := [] }
  have here : ((s.mCiphers[dialogId]?).getD { cipher, myString := [] }).cipher =
      (s.mCiphers[dialogId]?).elim cipher (·.cipher) := by
    cases s.mCiphers[dialogId]? <;> rfl
  unfold importKey Verifies
  simp only [Eff.readsOr_bind, readable, Eff.update_bind]
  cases decr : p.rsaDecrypt (splitKeyText text).2 with
  | error e => exact ⟨_, rfl, .inr ⟨⟨e, rfl⟩, by simp⟩⟩
  | ok verification =>
    simp only [Eff.readsOr, inUse, here]
    cases answer : p.aesEncrypt ((s.mCiphers[dialogId]?).elim cipher (·.cipher)) verification with
    | error e => exact ⟨_, rfl, .inr ⟨⟨e, rfl⟩, by simp [answer]⟩⟩
    | ok text' => exact ⟨_, rfl, .inl ⟨⟨text', rfl⟩, verification, text', rfl, answer⟩⟩

theorem importsAtomically_iff (text : Str) :
    ImportsAtomically p s dialogId text ↔ ImportsSoundly p s dialogId text := by
  unfold ImportsAtomically ImportsSoundly
  cases readable : createSymmetricalCipherFrom p (splitKeyText text).1 with
  | error e =>
    rw [importKey_of_unreadable p s dialogId readable]
    simp
  | ok cipher =>
    have atomic := atomic_emplace_iff s dialogId cipher []
      (Verifies p ((s.mCiphers[dialogId]?).elim cipher (·.cipher)) text)
    obtain ⟨r, outcome, ⟨⟨answer, rfl⟩, verifies⟩ | ⟨⟨e, rfl⟩, fails⟩⟩ :=
      importKey_of_readable p s dialogId readable
    · rw [outcome]
      simpa [verifies] using atomic
    · rw [outcome]
      simpa [fails] using atomic

/-! ## The export -/

theorem generateAndExportKey_of_unsealed (dialogId : Str) {address : Str}
    (unsealed : ∀ elem key, getRemoteByAdress p s.mRemote address = .ok elem →
      env.rsaEncrypt elem env.aesKey.serialize ≠ .ok key) :
    ∃ e, generateAndExportKey p env dialogId address s = (.error (.thrown e), s) := by
  unfold generateAndExportKey
  simp only [Eff.readsOr_bind]
  cases peer : getRemoteByAdress p s.mRemote address with
  | error e => exact ⟨e, rfl⟩
  | ok elem =>
    cases sealed : env.rsaEncrypt elem env.aesKey.serialize with
    | error e =>
      refine ⟨e, ?_⟩
      simp only [generateSymmetricalCipherTo, sealed]
      rfl
    | ok key => exact absurd sealed (unsealed elem key peer)

/-- Once the cipher is in its place, the export returns exactly if the verification string can be
encrypted. -/
theorem generateAndExportKey_of_sealed (dialogId : Str) {address : Str} {elem : PublicKey} {key : Str}
    (peer : getRemoteByAdress p s.mRemote address = .ok elem)
    (sealed : env.rsaEncrypt elem env.aesKey.serialize = .ok key) :
    ∃ r, generateAndExportKey p env dialogId address s =
        (r, s.emplaceCipher dialogId { cipher := env.aesKey, myString := env.resStr }) ∧
      ((∃ verification, env.rsaEncrypt elem env.resStr = .ok verification ∧
          r = .ok (key ++ str "," ++ verification)) ∨
        (∃ e, r = .error (.thrown e)) ∧
          ¬ ∃ verification, env.rsaEncrypt elem env.resStr = .ok verification) := by
  have cipher : generateSymmetricalCipherTo env elem = .ok (env.aesKey, key) := by
    simp only [generateSymmetricalCipherTo, sealed]
    rfl
  unfold generateAndExportKey
  simp only [Eff.readsOr_bind, peer, cipher, Eff.update_bind]
  cases verification : env.rsaEncrypt elem env.resStr with
  | error e => exact ⟨_, rfl, .inr ⟨⟨e, rfl⟩, by simp⟩⟩
  | ok check => exact ⟨_, rfl, .inl ⟨check, rfl, rfl⟩⟩

theorem exportsAtomically_iff (address : Str) :
    ExportsAtomically p env s dialogId address ↔ ExportsSoundly p env s dialogId address := by
  unfold ExportsAtomically ExportsSoundly
  by_cases seals : ∃ elem key, getRemoteByAdress p s.mRemote address = .ok elem ∧
      env.rsaEncrypt elem env.aesKey.serialize = .ok key
  · obtain ⟨elem, key, peer, sealed⟩ := seals
    have cipher : generateSymmetricalCipherTo env elem = .ok (env.aesKey, key) := by
      simp only [generateSymmetricalCipherTo, sealed]
      rfl
    have atomic := atomic_emplace_iff s dialogId env.aesKey env.resStr
      (∃ verification, env.rsaEncrypt elem env.resStr = .ok verification)
    have one : (∀ elem' key', getRemoteByAdress p s.mRemote address = .ok elem' →
        env.rsaEncrypt elem' env.aesKey.serialize = .ok key' →
          SoundOver env.aesKey (∃ verification, env.rsaEncrypt elem' env.resStr = .ok verification)
            s.mCiphers[dialogId]?) ↔
        SoundOver env.aesKey (∃ verification, env.rsaEncrypt elem env.resStr = .ok verification)
          s.mCiphers[dialogId]? := by
      constructor
      · intro all
        exact all elem key peer sealed
      · intro sound elem' key' peer' _
        rw [peer, Except.ok.injEq] at peer'
        rwa [← peer']
    rw [one, ← atomic]
    obtain ⟨r, outcome, ⟨verification, check, rfl⟩ | ⟨⟨e, rfl⟩, fails⟩⟩ :=
      generateAndExportKey_of_sealed p env dialogId peer sealed
    · rw [outcome, and_iff_right ⟨verification, check⟩]
      constructor
      · intro exported
        obtain ⟨elem', cipher', key', verification', peer', cipher'', _, installs⟩ := exported
        rw [peer, Except.ok.injEq] at peer'
        rw [← peer', cipher, Except.ok.injEq, Prod.mk.injEq] at cipher''
        rw [← cipher''.1] at installs
        exact .inl installs
      · intro installs
        have installed := installs.resolve_right fun fails => fails.1 ⟨verification, check⟩
        exact ⟨elem, env.aesKey, key, verification, peer, cipher, rfl, installed⟩
    · rw [outcome]
      simp only [fails, false_and, not_false_eq_true, true_and, false_or]
  · have unsealed : ∀ elem key, getRemoteByAdress p s.mRemote address = .ok elem →
        env.rsaEncrypt elem env.aesKey.serialize ≠ .ok key :=
      fun elem key peer sealed => seals ⟨elem, key, peer, sealed⟩
    obtain ⟨e, thrown⟩ := generateAndExportKey_of_unsealed p env dialogId unsealed
    rw [thrown]
    refine iff_of_true rfl ?_
    intro elem key peer sealed
    exact absurd sealed (unsealed elem key peer)

/-- Both operations on the ciphers are atomic and install what they exchange exactly under these
conditions, whatever the table, the dialog, the text and the address are. -/
theorem key_operations_atomic_iff (s : Core w) (dialogId : Str) :
    (∀ text, ImportsAtomically p s dialogId text ↔ ImportsSoundly p s dialogId text) ∧
    ∀ address, ExportsAtomically p env s dialogId address ↔
      ExportsSoundly p env s dialogId address :=
  ⟨importsAtomically_iff p, exportsAtomically_iff p env⟩

end

/-- A dialog that has a cipher keeps it when another key arrives, and the import returns. -/
theorem import_keeps_old_cipher :
    ¬ ImportsAtomically Sample.platform
      (Core.initial.emplaceCipher (str "dialog") ⟨⟨str "old", str "iv"⟩, []⟩) (str "dialog")
      Sample.keyText := by
  rw [importsAtomically_iff]
  intro sound
  have installed := sound Sample.env.aesKey (by decide +kernel)
  rw [show (Core.initial.emplaceCipher (str "dialog") ⟨⟨str "old", str "iv"⟩, []⟩ :
    Core 64).mCiphers[str "dialog"]? = some ⟨⟨str "old", str "iv"⟩, []⟩ by decide +kernel] at installed
  rcases installed with same | fails
  · revert same
    decide +kernel
  · exact fails ⟨_, _, rfl, rfl⟩

end SecureDialogues
