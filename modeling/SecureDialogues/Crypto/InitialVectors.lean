import SecureDialogues.Crypto.KeyInstallation
import SecureDialogues.Crypto.KeyTable
import SecureDialogues.Lib.Cfb
import SecureDialogues.Lib.Duplex

/-!
# Initialisation vectors

`encryption/src/symetrical/aescipher.cpp`. The initialisation vector belongs to the session key: it
is generated and exchanged with it, and every encryption in the dialog starts with it.
-/

namespace SecureDialogues

open Text Effect

/-! ## The cipher -/

namespace AesCipher

/-- `AesCipher::encrypt` (`aescipher.cpp:12-41`), where `aes` is the block cipher under a key. -/
def encrypt (aes : Str → Str → Str) (cipher : AesKeyStruct) (source : Str) : Str :=
  Base64.armor (Cfb.encrypt (aes cipher.key) cipher.iv source)

/-- `AesCipher::decrypt` (`aescipher.cpp:43-73`). -/
def decrypt (aes : Str → Str → Str) (cipher : AesKeyStruct) (data : Str) : Str :=
  Cfb.decrypt (aes cipher.key) cipher.iv (Base64.decode data)

/-- Texts that agree in their first block: 15 of its 16 bytes make whole digits. -/
theorem take_encrypt_of_take (aes : Str → Str → Str) (cipher : AesKeyStruct) {text text' : Str}
    (long : 16 ≤ text.length) (long' : 16 ≤ text'.length) (same : text.take 16 = text'.take 16) :
    (encrypt aes cipher text).take 20 = (encrypt aes cipher text').take 20 := by
  have bytes : text.take 15 = text'.take 15 := by
    have shorter := congrArg (List.take 15) same
    rwa [List.take_take, List.take_take] at shorter
  apply Base64.take_armor_of_take (n := 5) (by decide)
  · rw [Cfb.length_encrypt]
    omega
  · rw [Cfb.length_encrypt]
    omega
  · exact Cfb.take_encrypt_of_take cipher.iv bytes

end AesCipher

/-! ## The calls -/

/-- An encryption of a cipher object: what it starts with, its text and its outcome. -/
structure Encryption where
  dialogId : Str
  cipher : AesKeyStruct
  text : Str
  outcome : Except Exn Str

section

variable {w : Nat}

/-- A call of the crypto system, with the random values it gets. -/
inductive Call (w : Nat) where
  | generateAndExportKey (env : Env w) (dialogId addres : Str)
  | importKey (dialogId message : Str)
  | checkVerificationString (dialogId message : Str)
  | encryptMessageBody (dialogId message : Str)
  | decryptMessageBody (dialogId message : Str)
  | updateContact (contact : Contact)
  | removeContact (contact : Contact)
  | dialogRemoved (dialogId : Str)

variable (p : Platform w) (s : Core w)

/-- The state after a call, whether it returns or throws. -/
def Call.perform : Call w → Core w
  | generateAndExportKey env dialogId addres =>
    (SecureDialogues.generateAndExportKey p env dialogId addres s).2
  | importKey dialogId message => (SecureDialogues.importKey p dialogId message s).2
  | checkVerificationString _ _ | encryptMessageBody _ _ | decryptMessageBody _ _ => s
  | updateContact contact => (SecureDialogues.updateContact p contact s).2
  | removeContact contact => s.removeKey contact.id
  | dialogRemoved dialogId => { s with mCiphers := s.mCiphers.erase dialogId }

/-- The encryption of a text with a cipher object. -/
def encryption (dialogId : Str) (cipher : AesKeyStruct) (text : Str) : Encryption :=
  { dialogId, cipher, text, outcome := p.aesEncrypt cipher text }

/-- The encryptions that a call makes: of a text, or of the verification string with the cipher in
use, which an `emplace` has installed or left in its place. -/
def Call.encryptions : Call w → List Encryption
  | encryptMessageBody dialogId message =>
    match s.mCiphers[dialogId]? with
    | some element => [encryption p dialogId element.cipher message]
    | none => []
  | importKey dialogId message =>
    match createSymmetricalCipherFrom p (splitKeyText message).1,
      p.rsaDecrypt (splitKeyText message).2 with
    | .ok key, .ok decr =>
      [encryption p dialogId ((s.mCiphers[dialogId]?).elim key (·.cipher)) decr]
    | _, _ => []
  | _ => []

/-- The cipher text that a call returns, with its dialog. -/
def Call.returned : Call w → Option (Str × Str)
  | encryptMessageBody dialogId message =>
    (SecureDialogues.encryptMessageBody p s.mCiphers dialogId message).toOption.map (dialogId, ·)
  | importKey dialogId message =>
    (SecureDialogues.importKey p dialogId message s).1.toOption.map (dialogId, ·)
  | _ => none

variable {p s}

/-- A verification string is returned exactly if it is the outcome of the encryption. -/
theorem importKey_eq_ok {dialogId message answer : Str} :
    (importKey p dialogId message s).1 = .ok answer ↔
      ∃ e ∈ (Call.importKey dialogId message).encryptions p s,
        e.dialogId = dialogId ∧ e.outcome = .ok answer := by
  unfold importKey Call.encryptions
  simp only [Eff.readsOr_bind]
  cases createSymmetricalCipherFrom p (splitKeyText message).1 with
  | error e => simp
  | ok key =>
    simp only [Eff.update_bind, Eff.readsOr_bind]
    cases p.rsaDecrypt (splitKeyText message).2 with
    | error e => simp
    | ok decr =>
      have inUse := emplaceCipher_mCiphers_self s dialogId { cipher := key, myString := [] }
      have here : ((s.mCiphers[dialogId]?).getD { cipher := key, myString := [] }).cipher =
          (s.mCiphers[dialogId]?).elim key (·.cipher) := by
        cases s.mCiphers[dialogId]? <;> rfl
      simp only [Eff.readsOr, inUse, here, encryption, List.mem_singleton, exists_eq_left, true_and]
      cases p.aesEncrypt ((s.mCiphers[dialogId]?).elim key (·.cipher)) decr <;> simp

/-- What a call returns is the outcome of one of its encryptions. -/
theorem Call.mem_encryptions_of_returned {call : Call w} {dialogId data : Str}
    (returned : call.returned p s = some (dialogId, data)) :
    ∃ e ∈ call.encryptions p s, e.dialogId = dialogId ∧ e.outcome = .ok data := by
  cases call with
  | encryptMessageBody dialogId message =>
    simp only [Call.returned, SecureDialogues.encryptMessageBody] at returned
    cases present : s.mCiphers[dialogId]? with
    | none =>
      rw [present] at returned
      cases returned
    | some element =>
      rw [present] at returned
      cases encrypted : p.aesEncrypt element.cipher message with
      | error e =>
        simp [encrypted, Except.toOption] at returned
      | ok cipher =>
        simp only [encrypted, Except.toOption, Option.map_some, Option.some_inj] at returned
        cases returned
        refine ⟨encryption p dialogId element.cipher message, ?_, rfl, encrypted⟩
        rw [Call.encryptions, present]
        exact List.mem_cons_self
  | importKey dialogId message =>
    rw [Call.returned] at returned
    cases imported : (SecureDialogues.importKey p dialogId message s).1 with
    | error e =>
      rw [imported] at returned
      cases returned
    | ok answer =>
      rw [imported] at returned
      cases returned
      exact importKey_eq_ok.mp imported
  | generateAndExportKey | checkVerificationString | decryptMessageBody | updateContact
  | removeContact | dialogRemoved => cases returned

/-! ## Two instances -/

/-- The crypto systems of two instances, and the encryptions of both so far. -/
structure Encrypting (w : Nat) where
  ends : Duplex.Side → Core w
  started : List Encryption

namespace Encrypting

/-- One of the instances performs a call. -/
def next (p : Duplex.Side → Platform w) (c : Encrypting w) (input : Duplex.Side × Call w) :
    Encrypting w where
  ends side :=
    if side = input.1 then input.2.perform (p side) (c.ends side) else c.ends side
  started := c.started ++ input.2.encryptions (p input.1) (c.ends input.1)

/-- After a sequence of calls. -/
def run (p : Duplex.Side → Platform w) (ends : Duplex.Side → Core w)
    (calls : List (Duplex.Side × Call w)) : Encrypting w :=
  Run.after (next p) ⟨ends, []⟩ calls

/-- The keys with their initialisation vectors that the encryptions in a dialog have started
with. -/
def startsIn (c : Encrypting w) (dialogId : Str) : List AesKeyStruct :=
  (c.started.filter (·.dialogId = dialogId)).map (·.cipher)

/-- What has been encrypted stays so. -/
theorem started_run_subset (p : Duplex.Side → Platform w) (ends : Duplex.Side → Core w)
    (before after : List (Duplex.Side × Call w)) :
    (run p ends before).started ⊆ (run p ends (before ++ after)).started := by
  rw [run, run, Run.after_append]
  generalize Run.after (next p) ⟨ends, []⟩ before = c
  induction after generalizing c with
  | nil => exact List.Subset.refl _
  | cons input after ih => exact List.Subset.trans (List.subset_append_left _ _) (ih (next p c input))

/-- Every cipher text that a call returns is recorded with the encryptions. -/
theorem exists_started_of_returned {p : Duplex.Side → Platform w} {ends : Duplex.Side → Core w}
    {before after : List (Duplex.Side × Call w)} {side : Duplex.Side} {call : Call w}
    {dialogId data : Str}
    (returned : call.returned (p side) ((run p ends before).ends side) = some (dialogId, data)) :
    ∃ e ∈ (run p ends (before ++ (side, call) :: after)).started,
      e.dialogId = dialogId ∧ e.outcome = .ok data := by
  obtain ⟨e, member, kept⟩ := Call.mem_encryptions_of_returned returned
  refine ⟨e, ?_, kept⟩
  rw [List.append_cons]
  apply started_run_subset p ends (before ++ [(side, call)]) after
  rw [run, Run.after_append]
  exact List.mem_append_right _ member

end Encrypting

/-- The left instance generates the key of a dialog, the right one imports this key, and neither
removes the dialog. -/
def SharesDialog (p : Duplex.Side → Platform w) (dialogId : Str) (key : AesKeyStruct) :
    Duplex.Side × Call w → Prop
  | (.left, .generateAndExportKey env other _) => other = dialogId → env.aesKey = key
  | (.right, .generateAndExportKey _ other _) => other ≠ dialogId
  | (.left, .importKey other _) => other ≠ dialogId
  | (.right, .importKey other text) => other = dialogId →
    createSymmetricalCipherFrom (p .right) (splitKeyText text).1 = .ok key
  | (_, .dialogRemoved other) => other ≠ dialogId
  | _ => True

/-- The dialog has no cipher yet, or the one with the key. -/
def HoldsOnly (key : AesKeyStruct) (dialogId : Str) (s : Core w) : Prop :=
  ∀ element, s.mCiphers[dialogId]? = some element → element.cipher = key

theorem HoldsOnly.emplaceCipher {key : AesKeyStruct} {dialogId other : Str} {s : Core w}
    (holds : HoldsOnly key dialogId s) {element : DialogElement}
    (same : other = dialogId → element.cipher = key) :
    HoldsOnly key dialogId (s.emplaceCipher other element) := by
  intro stored present
  by_cases here : other = dialogId
  · rw [← here, emplaceCipher_mCiphers_self] at present
    cases before : s.mCiphers[other]? with
    | none =>
      rw [before] at present
      cases present
      exact same here
    | some old =>
      rw [before] at present
      cases present
      exact holds _ (here ▸ before)
  · rw [emplaceCipher_keepsOtherCiphers other element s dialogId (Ne.symm here)] at present
    exact holds stored present

theorem HoldsOnly.erase {key : AesKeyStruct} {dialogId other : Str} {s : Core w}
    (holds : HoldsOnly key dialogId s) :
    HoldsOnly key dialogId { s with mCiphers := s.mCiphers.erase other } := by
  intro element present
  replace present : (s.mCiphers.erase other)[dialogId]? = some element := present
  rw [getElem?_erase] at present
  split at present
  · cases present
  · exact holds element present

theorem generateAndExportKey_state (p : Platform w) (env : Env w) (dialogId address : Str)
    (s : Core w) : (generateAndExportKey p env dialogId address s).2 = s ∨
      (generateAndExportKey p env dialogId address s).2 =
        s.emplaceCipher dialogId { cipher := env.aesKey, myString := env.resStr } := by
  by_cases seals : ∃ elem key, getRemoteByAdress p s.mRemote address = .ok elem ∧
      env.rsaEncrypt elem env.aesKey.serialize = .ok key
  · obtain ⟨elem, key, peer, sealed⟩ := seals
    obtain ⟨r, outcome, -⟩ := generateAndExportKey_of_sealed p env dialogId peer sealed
    exact .inr (by rw [outcome])
  · obtain ⟨e, outcome⟩ := generateAndExportKey_of_unsealed p env dialogId (s := s)
      fun elem key peer sealed => seals ⟨elem, key, peer, sealed⟩
    exact .inl (by rw [outcome])

/-- A call for a shared dialog installs no other key. -/
theorem HoldsOnly.perform {p : Duplex.Side → Platform w} {key : AesKeyStruct} {dialogId : Str}
    {side : Duplex.Side} {call : Call w} {s : Core w} (holds : HoldsOnly key dialogId s)
    (shares : SharesDialog p dialogId key (side, call)) :
    HoldsOnly key dialogId (call.perform (p side) s) := by
  cases call with
  | generateAndExportKey env other address =>
    rw [Call.perform]
    rcases generateAndExportKey_state (p side) env other address s with same | installed
    · rwa [same]
    · rw [installed]
      apply holds.emplaceCipher
      intro here
      cases side with
      | left => exact shares here
      | right => exact absurd here shares
  | importKey other text =>
    rw [Call.perform]
    cases read : createSymmetricalCipherFrom (p side) (splitKeyText text).1 with
    | error e =>
      rw [importKey_of_unreadable (p side) s other read]
      exact holds
    | ok cipher =>
      obtain ⟨r, outcome, -⟩ := importKey_of_readable (p side) s other read
      rw [outcome]
      apply holds.emplaceCipher
      intro here
      cases side with
      | left => exact absurd here shares
      | right => exact Except.ok.inj (read.symm.trans (shares here))
  | updateContact contact =>
    rw [Call.perform, updateContact, Eff.readsOr_bind]
    cases (p side).loadPublicKey contact.publicKey with
    | error e => exact holds
    | ok pub => exact holds
  | dialogRemoved other => exact holds.erase
  | checkVerificationString | encryptMessageBody | decryptMessageBody | removeContact =>
    exact holds

/-- The encryptions of a call start with what the dialog's cipher object holds. -/
theorem Call.cipher_of_mem {p : Duplex.Side → Platform w} {key : AesKeyStruct} {dialogId : Str}
    {side : Duplex.Side} {call : Call w} {s : Core w} (holds : HoldsOnly key dialogId s)
    (shares : SharesDialog p dialogId key (side, call)) {e : Encryption}
    (member : e ∈ call.encryptions (p side) s) :
    (e.dialogId = dialogId → e.cipher = key) ∧
      e.outcome = (p side).aesEncrypt e.cipher e.text := by
  cases call with
  | encryptMessageBody other message =>
    simp only [Call.encryptions] at member
    split at member
    · rename_i element present
      rw [List.mem_singleton] at member
      rw [member]
      refine ⟨fun here => ?_, rfl⟩
      replace here : other = dialogId := here
      exact holds element (here ▸ present)
    · cases member
  | importKey other message =>
    simp only [Call.encryptions] at member
    split at member
    · rename_i cipher decr read _
      rw [List.mem_singleton] at member
      rw [member]
      refine ⟨fun here => ?_, rfl⟩
      replace here : other = dialogId := here
      change (s.mCiphers[other]?).elim cipher (·.cipher) = key
      cases present : s.mCiphers[other]? with
      | some element => exact holds element (here ▸ present)
      | none =>
        cases side with
        | left => exact absurd here shares
        | right => exact Except.ok.inj (read.symm.trans (shares here))
    · cases member
  | generateAndExportKey | checkVerificationString | decryptMessageBody | updateContact
  | removeContact | dialogRemoved => cases member

/-! ## The exchanged vector -/

/-- The calls so far have installed and used no other key in the dialog. -/
structure OneKey (p : Duplex.Side → Platform w) (key : AesKeyStruct) (dialogId : Str)
    (c : Encrypting w) : Prop where
  holds : ∀ side, HoldsOnly key dialogId (c.ends side)
  starts : ∀ e ∈ c.started, e.dialogId = dialogId → e.cipher = key
  outcomes : ∀ e ∈ c.started, ∃ side, e.outcome = (p side).aesEncrypt e.cipher e.text

theorem OneKey.next {p : Duplex.Side → Platform w} {key : AesKeyStruct} {dialogId : Str}
    {c : Encrypting w} (one : OneKey p key dialogId c) {input : Duplex.Side × Call w}
    (shares : SharesDialog p dialogId key input) :
    OneKey p key dialogId (Encrypting.next p c input) where
  holds side := by
    rw [Encrypting.next]
    by_cases performing : side = input.1
    · simp only [if_pos performing]
      exact (one.holds side).perform (by rwa [performing])
    · simp only [if_neg performing]
      exact one.holds side
  starts e member := by
    rcases List.mem_append.mp member with before | now
    · exact one.starts e before
    · exact (Call.cipher_of_mem (one.holds input.1) shares now).1
  outcomes e member := by
    rcases List.mem_append.mp member with before | now
    · exact one.outcomes e before
    · exact ⟨input.1, (Call.cipher_of_mem (one.holds input.1) shares now).2⟩

theorem OneKey.run {p : Duplex.Side → Platform w} {key : AesKeyStruct} {dialogId : Str}
    {ends : Duplex.Side → Core w} (fresh : ∀ side, (ends side).mCiphers[dialogId]? = none)
    {calls : List (Duplex.Side × Call w)}
    (shares : ∀ input ∈ calls, SharesDialog p dialogId key input) :
    OneKey p key dialogId (Encrypting.run p ends calls) := by
  have start : OneKey p key dialogId (⟨ends, []⟩ : Encrypting w) := by
    refine ⟨fun side element present => ?_, fun e member => ?_, fun e member => ?_⟩
    · rw [fresh side] at present
      cases present
    · cases member
    · cases member
  exact Run.invariant_after (fun c input one shares => one.next shares) start
    (Run.along_of_mem shares _)

theorem OneKey.startsIn {p : Duplex.Side → Platform w} {key : AesKeyStruct} {dialogId : Str}
    {c : Encrypting w} (one : OneKey p key dialogId c) :
    c.startsIn dialogId = List.replicate (c.startsIn dialogId).length key := by
  apply List.eq_replicate_of_mem
  intro cipher member
  obtain ⟨e, listed, rfl⟩ := List.mem_map.mp member
  obtain ⟨started, here⟩ := List.mem_filter.mp listed
  exact one.starts e started (of_decide_eq_true here)

/-- Every cipher text of the dialog is its text under the one key. -/
theorem OneKey.data_eq {p : Duplex.Side → Platform w} {key : AesKeyStruct} {dialogId : Str}
    {c : Encrypting w} (one : OneKey p key dialogId c) {aes : Str → Str → Str}
    (uses : ∀ side cipher text data, (p side).aesEncrypt cipher text = .ok data →
      data = AesCipher.encrypt aes cipher text)
    {e : Encryption} (member : e ∈ c.started) (here : e.dialogId = dialogId) {data : Str}
    (outcome : e.outcome = .ok data) : data = AesCipher.encrypt aes key e.text := by
  obtain ⟨side, encrypted⟩ := one.outcomes e member
  have computed := uses side e.cipher e.text data (encrypted.symm.trans outcome)
  rwa [one.starts e member here] at computed

/-- In every run of two instances that share a dialog all encryptions in the dialog start with the
one key and initialisation vector that were exchanged. They are distinct exactly if there is at
most one, texts that agree, or agree in their first block, give cipher texts that do, and whatever
cipher text is returned is one of these. -/
theorem initial_vector_shared (aes : Str → Str → Str) (p : Duplex.Side → Platform w)
    (uses : ∀ side cipher text data, (p side).aesEncrypt cipher text = .ok data →
      data = AesCipher.encrypt aes cipher text)
    {ends : Duplex.Side → Core w} {dialogId : Str}
    (fresh : ∀ side, (ends side).mCiphers[dialogId]? = none) {key : AesKeyStruct}
    {calls : List (Duplex.Side × Call w)}
    (shares : ∀ input ∈ calls, SharesDialog p dialogId key input) :
    (∀ start ∈ (Encrypting.run p ends calls).startsIn dialogId, start = key) ∧
    (((Encrypting.run p ends calls).startsIn dialogId).Nodup ↔
      ((Encrypting.run p ends calls).startsIn dialogId).length ≤ 1) ∧
    (∀ e ∈ (Encrypting.run p ends calls).started, ∀ e' ∈ (Encrypting.run p ends calls).started,
      e.dialogId = dialogId → e'.dialogId = dialogId →
        ∀ data data', e.outcome = .ok data → e'.outcome = .ok data' →
          (e.text = e'.text → data = data') ∧
          (16 ≤ e.text.length → 16 ≤ e'.text.length → e.text.take 16 = e'.text.take 16 →
            data.take 20 = data'.take 20)) ∧
    ∀ before side call after, calls = before ++ (side, call) :: after →
      ∀ other data, call.returned (p side) ((Encrypting.run p ends before).ends side) =
        some (other, data) →
      ∃ e ∈ (Encrypting.run p ends calls).started, e.dialogId = other ∧ e.outcome = .ok data := by
  have one := OneKey.run fresh shares
  refine ⟨?_, ?_, ?_, ?_⟩
  · intro start member
    rw [one.startsIn] at member
    exact List.eq_of_mem_replicate member
  · rw [one.startsIn, List.nodup_replicate, List.length_replicate]
  · intro e member e' member' here here' data data' outcome outcome'
    have first := one.data_eq uses member here outcome
    have second := one.data_eq uses member' here' outcome'
    constructor
    · intro same
      rw [first, second, same]
    · intro long long' same
      rw [first, second]
      exact AesCipher.take_encrypt_of_take aes key long long' same
  · rintro before side call after rfl other data returned
    exact Encrypting.exists_started_of_returned returned

end

namespace Sample

/-- The cipher over a block function that changes nothing. -/
def cfbPlatform : Platform 64 :=
  { base64Platform with
    width := width
    aesEncrypt := fun cipher text => .ok (AesCipher.encrypt (fun _ block => block) cipher text)
    aesDecrypt := fun cipher data => .ok (AesCipher.decrypt (fun _ block => block) cipher data) }

/-- The text of the exported key. -/
def exported : Str :=
  Base64.armor base64Env.aesKey.serialize ++ comma :: Base64.armor base64Env.resStr

/-- The left instance, which knows the peer, and the right one. -/
def unkeyed : Duplex.Side → Core 64
  | .left => run connect
  | .right => Core.initial

/-- The key is exchanged, and both sides encrypt a greeting. -/
def greetings : List (Duplex.Side × Call 64) :=
  [(.left, .generateAndExportKey base64Env (str "dialog") peer.adress),
    (.right, .importKey (str "dialog") exported),
    (.left, .encryptMessageBody (str "dialog") (str "hello")),
    (.right, .encryptMessageBody (str "dialog") (str "hello"))]

theorem greetings_share : ∀ input ∈ greetings,
    SharesDialog (fun _ => cfbPlatform) (str "dialog") base64Env.aesKey input := by
  have arrives : createSymmetricalCipherFrom cfbPlatform (splitKeyText exported).1 =
      .ok base64Env.aesKey := by decide +kernel
  intro input member
  simp only [greetings, List.mem_cons, List.not_mem_nil, or_false] at member
  rcases member with rfl | rfl | rfl | rfl
  · exact fun _ => rfl
  · exact fun _ => arrives
  · trivial
  · trivial

end Sample

/-- The verification string and both greetings. -/
theorem initial_vector_shared_greetings :
    ((Encrypting.run (fun _ => Sample.cfbPlatform) Sample.unkeyed Sample.greetings).startsIn
        (str "dialog")).Nodup ↔
      ((Encrypting.run (fun _ => Sample.cfbPlatform) Sample.unkeyed Sample.greetings).startsIn
        (str "dialog")).length ≤ 1 :=
  (initial_vector_shared (fun _ block => block) (fun _ => Sample.cfbPlatform)
    (fun _ _ _ _ encrypted => (Except.ok.inj encrypted).symm)
    (fun side => by cases side <;> rfl) Sample.greetings_share).2.1

/-- The exchange and the greetings start with one vector three times. -/
theorem initial_vector_used_again :
    ¬ ((Encrypting.run (fun _ => Sample.cfbPlatform) Sample.unkeyed Sample.greetings).startsIn
      (str "dialog")).Nodup := by
  decide +kernel

end SecureDialogues
