import SecureDialogues.Crypto.CryptoProps
import SecureDialogues.Crypto.Serializations
import SecureDialogues.Lib.Base64
import SecureDialogues.Step
import SecureDialogues.Utils.MessageMarshallerProps

/-!
# The agreement on a session key

One party generates a key and exports it under the public key of the other, which imports it and
proves with the verification string that it has it. The texts in between are Base64 in lines, and
arrive as they are or inside of messages, which lose the last line break.
-/

namespace SecureDialogues

open Text Effect

/-! ## Ciphers with texts in lines -/

theorem isBase64_of_mem_encode {text : Str} {c : UInt8} (member : c ∈ Base64.encode text) :
    isBase64 c = true := by
  have digits : ∀ n < 64, isBase64 (Base64.digit n) = true := by decide
  rcases Base64.mem_encode member with ⟨n, small, rfl⟩ | rfl
  · exact digits n small
  · decide

/-- The texts differ in their white space only. -/
def SameDigits (text text' : Str) : Prop :=
  text.filter (fun c => !isspace c) = text'.filter fun c => !isspace c

/-- What is known of a cipher behind Base64: it encrypts the texts that fit, in lines of Base64,
the decryption inverts it, and it skips white space. -/
structure ArmoredCipher (Fits : Str → Prop) (encrypt decrypt : Str → Except Exn Str) : Prop where
  returns : ∀ text, Fits text → ∃ cipher, encrypt text = .ok cipher
  armored : ∀ text cipher, encrypt text = .ok cipher → ∀ c ∈ cipher, isBase64 c = true ∨ c = newline
  inverts : ∀ text cipher, encrypt text = .ok cipher → decrypt cipher = .ok text
  ignoresSpace : ∀ cipher cipher', SameDigits cipher cipher' → decrypt cipher = decrypt cipher'

theorem ArmoredCipher.decrypt_of_sameDigits {Fits : Str → Prop}
    {encrypt decrypt : Str → Except Exn Str} (armored : ArmoredCipher Fits encrypt decrypt)
    {text cipher arrived : Str} (encrypted : encrypt text = .ok cipher)
    (same : SameDigits cipher arrived) : decrypt arrived = .ok text := by
  rw [← armored.ignoresSpace cipher arrived same]
  exact armored.inverts text cipher encrypted

theorem OnlyTrailingSpaceRemoved.sameDigits {before after : Str}
    (removed : OnlyTrailingSpaceRemoved before after) : SameDigits before after := by
  obtain ⟨blank, rfl, spaces⟩ := removed
  rw [SameDigits, List.filter_append, List.append_right_eq_self, List.filter_eq_nil_iff]
  intro c member
  simp [spaces c member]

theorem OnlyTrailingSpaceRemoved.refl (text : Str) : OnlyTrailingSpaceRemoved text text :=
  ⟨[], by simp, by simp⟩

/-! ## The two halves of an exported key -/

theorem splitKeyText_append {key verification : Str} (noComma : comma ∉ key) :
    splitKeyText (key ++ comma :: verification) = (key, verification) := by
  have first : (key ++ comma :: verification).takeWhile (· ≠ comma) = key := by
    rw [List.takeWhile_append_of_pos, List.takeWhile_cons_of_neg (by simp), List.append_nil]
    intro c member
    rw [decide_eq_true_eq]
    rintro rfl
    exact noComma member
  simp only [splitKeyText, first, List.drop_left]

/-- Trailing white space is lost in the verification string only. -/
theorem splitKeyText_of_removed {key verification arrived : Str} (noComma : comma ∉ key)
    (removed : OnlyTrailingSpaceRemoved (key ++ comma :: verification) arrived) :
    ∃ verification', splitKeyText arrived = (key, verification') ∧
      SameDigits verification verification' := by
  obtain ⟨blank, whole, spaces⟩ := removed
  have noBlank : comma ∉ blank := by
    intro member
    exact absurd (spaces comma member) (by decide)
  rcases List.append_eq_append_iff.mp whole with ⟨rest, split, tail⟩ | ⟨rest, split, tail⟩
  · cases rest with
    | nil =>
      apply absurd _ noBlank
      rw [← List.nil_append blank, ← tail]
      exact List.mem_cons_self
    | cons c verification' =>
      obtain ⟨rfl, behind⟩ := List.cons.inj tail
      refine ⟨verification', ?_, ?_⟩
      · rw [split, splitKeyText_append noComma]
      · exact OnlyTrailingSpaceRemoved.sameDigits ⟨blank, behind, spaces⟩
  · apply absurd _ noBlank
    rw [tail]
    simp

/-! ## Texts inside of messages -/

/-- A message with the identifier of a dialog and a signature, as they are sent. -/
structure IsSigned {w : Nat} (message : DialogMessage w) : Prop where
  dialogId : message.mDialogId ≠ []
  noBreak : newline ∉ message.mDialogId
  sign : IsBase64Text message.mSign
  firstLine : message.mSign.head? ≠ some newline

/-- The content arrives as it is, or inside of any message after `marshall` and `unmarshall`. -/
def HoweverItArrives (w : Nat) (content : Str) (P : Str → Prop) : Prop :=
  P content ∧ ∀ (stack : Action × BitVec w) (message : DialogMessage w) (address : Str),
    IsSigned message → message.mContent = content →
      ∃ received, unmarshall stack (marshall message) address = some received ∧
        P received.mContent

theorem mem_of_mem_getlines {s line : Str} (member : line ∈ getlines s) {c : UInt8} (char : c ∈ line)
    (noBreak : c ≠ newline) : c ∈ s := by
  have inLines : c ∈ unlines (getlines s) :=
    List.mem_flatMap.mpr ⟨line, member, List.mem_append_left _ char⟩
  rw [unlines_getlines] at inLines
  split at inLines
  · exact inLines
  · simpa [noBreak] using inLines

/-- A content without NUL and without dashes loses trailing white space at most. -/
theorem howeverItArrives {w : Nat} {content : Str} (clean : 0 ∉ content)
    (noDash : (45 : UInt8) ∉ content) {P : Str → Prop}
    (arrives : ∀ arrived, OnlyTrailingSpaceRemoved content arrived → P arrived) :
    HoweverItArrives w content P := by
  refine ⟨arrives content (.refl content), ?_⟩
  intro stack message address signed same
  have parsed := unmarshall_printMessage stack signed.noBreak signed.sign.noDelitimer address
  rw [if_neg (by simp [signed.dialogId, signed.sign.1, signed.firstLine])] at parsed
  refine ⟨_, parsed, ?_⟩
  rw [same]
  apply arrives
  rw [onlyTrailingSpaceRemoved_readContent]
  refine ⟨clean, ?_⟩
  intro delimiter
  have dash := mem_of_mem_getlines delimiter (c := 45) (by decide) (by decide)
  exact noDash ((List.rdropWhile_prefix isspace content).subset dash)

section

variable {w : Nat}

/-! ## The two parties -/

/-- What is assumed of the cryptography of two parties `a` and `b`, where `b` encrypts under the
public key of `a`: OAEP with a key of 3072 bits takes 342 bytes, and AES a key of 32 bytes and an
initial vector of 16. -/
structure PeerCryptography (a b : Platform w) (env : Env w) (key : PublicKey) : Prop where
  rsa : ArmoredCipher (fun text => text.length ≤ 342) (env.rsaEncrypt key) a.rsaDecrypt
  toB : ∀ object : AesKeyStruct, object.key.length = 32 → object.iv.length = 16 →
    ArmoredCipher (fun _ => True) (a.aesEncrypt object) (b.aesDecrypt object)
  toA : ∀ object : AesKeyStruct, object.key.length = 32 → object.iv.length = 16 →
    ArmoredCipher (fun _ => True) (b.aesEncrypt object) (a.aesDecrypt object)

/-- The random values have the lengths that are asked for: `AES::MAX_KEYLENGTH`,
`AES::BLOCKSIZE` and the digits of 100 bytes. -/
structure Env.GeneratesKeys (env : Env w) : Prop where
  key : env.aesKey.key.length = 32
  iv : env.aesKey.iv.length = 16
  resStr : env.resStr.length = 200

/-- Texts that the one party encrypts are read by the other. -/
def Conveys (sender receiver : Platform w) (s s' : Core w) (dialogId : Str) : Prop :=
  ∀ text, ∃ cipher, encryptMessageBody sender s.mCiphers dialogId text = .ok cipher ∧
    decryptMessageBody receiver s'.mCiphers dialogId cipher = .ok text

/-- The ciphers of the other dialogs are as they were. -/
def KeepsOtherCiphers (dialogId : Str) (s s' : Core w) : Prop :=
  ∀ other : Str, other ≠ dialogId → s'.mCiphers[other]? = s.mCiphers[other]?

theorem emplaceCipher_keepsOtherCiphers (dialogId : Str) (element : DialogElement) (s : Core w) :
    KeepsOtherCiphers dialogId s (s.emplaceCipher dialogId element) := by
  intro other different
  unfold Core.emplaceCipher
  split
  · rfl
  · show (s.mCiphers.insert dialogId element)[other]? = _
    rw [getElem?_insert, if_neg different.symm]

theorem emplaceCipher_new {dialogId : Str} {s : Core w} (new : s.mCiphers[dialogId]? = none)
    (element : DialogElement) :
    (s.emplaceCipher dialogId element).mCiphers[dialogId]? = some element := by
  rw [emplaceCipher_mCiphers_self, new, Option.getD_none]

/-- The text of a generated key has 54 bytes. -/
theorem serialize_length {env : Env w} (generates : env.GeneratesKeys) :
    env.aesKey.serialize.length = 54 := by
  simp [AesKeyStruct.serialize, generates.key, generates.iv]
  decide

theorem Env.GeneratesKeys.deserialize {env : Env w} (generates : env.GeneratesKeys) :
    AesKeyStruct.deserialize env.aesKey.serialize = .ok env.aesKey := by
  have key := generates.key
  have iv := generates.iv
  apply deserialize_serialize
  · exact List.ne_nil_of_length_pos (by omega)
  · omega
  · exact List.ne_nil_of_length_pos (by omega)
  · omega

/-- The exported text: the key and the verification string under the key of the other party, with
a comma in between. -/
theorem generateAndExportKey_exports {a b : Platform w} {env : Env w} {key : PublicKey}
    (crypto : PeerCryptography a b env key) (generates : env.GeneratesKeys) {s : Core w}
    {address : Str} (known : getRemoteByAdress b s.mRemote address = .ok key) (dialogId : Str) :
    ∃ body check, env.rsaEncrypt key env.aesKey.serialize = .ok body ∧
      env.rsaEncrypt key env.resStr = .ok check ∧
      generateAndExportKey b env dialogId address s = (.ok (body ++ comma :: check),
        s.emplaceCipher dialogId { cipher := env.aesKey, myString := env.resStr }) := by
  obtain ⟨body, bodyText⟩ := crypto.rsa.returns env.aesKey.serialize
    (by rw [serialize_length generates]; omega)
  obtain ⟨check, checkText⟩ := crypto.rsa.returns env.resStr (by rw [generates.resStr]; omega)
  refine ⟨body, check, bodyText, checkText, ?_⟩
  unfold generateAndExportKey
  simp only [Eff.readsOr_bind, known, generateSymmetricalCipherTo, bodyText]
  show (Eff.update _ >>= _ : M w Str) s = _
  simp only [Eff.update_bind, Eff.readsOr_bind, checkText]
  rw [List.append_assoc]
  rfl

/-- The import of an exported text, whose verification string may have lost white space. -/
theorem importKey_imports {a b : Platform w} {env : Env w} {key : PublicKey}
    (crypto : PeerCryptography a b env key) (generates : env.GeneratesKeys) {body check : Str}
    (bodyText : env.rsaEncrypt key env.aesKey.serialize = .ok body)
    (checkText : env.rsaEncrypt key env.resStr = .ok check) {arrived check' : Str}
    (split : splitKeyText arrived = (body, check')) (same : SameDigits check check')
    {dialogId : Str} {s : Core w} (new : s.mCiphers[dialogId]? = none) :
    ∃ answer, a.aesEncrypt env.aesKey env.resStr = .ok answer ∧
      importKey a dialogId arrived s =
        (.ok answer, s.emplaceCipher dialogId { cipher := env.aesKey, myString := [] }) := by
  obtain ⟨answer, answered⟩ :=
    (crypto.toB env.aesKey generates.key generates.iv).returns env.resStr trivial
  refine ⟨answer, answered, ?_⟩
  have cipher : createSymmetricalCipherFrom a body = .ok env.aesKey := by
    simp only [createSymmetricalCipherFrom, crypto.rsa.inverts _ _ bodyText, bind, Except.bind,
      generates.deserialize]
  have decr := crypto.rsa.decrypt_of_sameDigits checkText same
  have installed := emplaceCipher_new new { cipher := env.aesKey, myString := [] }
  unfold importKey
  simp only [split, Eff.readsOr_bind, cipher, Eff.update_bind, decr]
  apply Eff.readsOr_ok
  simp only [installed, answered]

/-- With the same key on both sides, the one reads what the other writes. -/
theorem conveys_of_installed {sender receiver : Platform w} {object : AesKeyStruct}
    (armored : ArmoredCipher (fun _ => True) (sender.aesEncrypt object)
      (receiver.aesDecrypt object)) {s s' : Core w} {dialogId : Str} {element element' : DialogElement}
    (installed : s.mCiphers[dialogId]? = some element) (here : element.cipher = object)
    (installed' : s'.mCiphers[dialogId]? = some element') (there : element'.cipher = object) :
    Conveys sender receiver s s' dialogId := by
  intro text
  obtain ⟨cipher, encrypted⟩ := armored.returns text trivial
  refine ⟨cipher, ?_, ?_⟩
  · simp only [encryptMessageBody, installed, here, encrypted]
  · simp only [decryptMessageBody, installed', there, armored.inverts text cipher encrypted]

theorem ArmoredCipher.notMem {Fits : Str → Prop} {encrypt decrypt : Str → Except Exn Str}
    (armored : ArmoredCipher Fits encrypt decrypt) {text cipher : Str}
    (encrypted : encrypt text = .ok cipher) {c : UInt8}
    (other : ¬ (isBase64 c = true ∨ c = newline)) : c ∉ cipher :=
  fun member => other (armored.armored text cipher encrypted c member)

/-- The party `b` exports a key and `a` imports what arrives. The verification string that `a`
answers with is correct however it arrives, and each reads the texts of the other from then on. The
ciphers of all other dialogs stay as they are. -/
def AgreeOnKey (a b : Platform w) (env : Env w) (dialogId address : Str) (sA sB : Core w) : Prop :=
  ∃ exported sB', generateAndExportKey b env dialogId address sB = (.ok exported, sB') ∧
    KeepsOtherCiphers dialogId sB sB' ∧
    HoweverItArrives w exported fun arrived =>
      ∃ answer sA', importKey a dialogId arrived sA = (.ok answer, sA') ∧
        KeepsOtherCiphers dialogId sA sA' ∧
        Conveys a b sA' sB' dialogId ∧ Conveys b a sB' sA' dialogId ∧
        HoweverItArrives w answer fun verification =>
          checkVerificationString b sB'.mCiphers dialogId verification = .ok true

/-- Two parties agree on a key for any dialog that has none, whatever other ciphers they have. -/
theorem session_key_agreed {a b : Platform w} {env : Env w} {key : PublicKey}
    (crypto : PeerCryptography a b env key) (generates : env.GeneratesKeys) {sA sB : Core w}
    {address : Str} (known : getRemoteByAdress b sB.mRemote address = .ok key) {dialogId : Str}
    (newA : sA.mCiphers[dialogId]? = none) (newB : sB.mCiphers[dialogId]? = none) :
    AgreeOnKey a b env dialogId address sA sB := by
  obtain ⟨body, check, bodyText, checkText, exports⟩ :=
    generateAndExportKey_exports crypto generates known dialogId
  have installedB := emplaceCipher_new newB { cipher := env.aesKey, myString := env.resStr }
  have toB := crypto.toB env.aesKey generates.key generates.iv
  have toA := crypto.toA env.aesKey generates.key generates.iv
  refine ⟨_, _, exports, emplaceCipher_keepsOtherCiphers _ _ _, ?_⟩
  apply howeverItArrives
  · have zero : ¬ (isBase64 0 = true ∨ (0 : UInt8) = newline) := by decide
    rw [List.mem_append, List.mem_cons, not_or, not_or]
    exact ⟨crypto.rsa.notMem bodyText zero, by decide, crypto.rsa.notMem checkText zero⟩
  · have dash : ¬ (isBase64 45 = true ∨ (45 : UInt8) = newline) := by decide
    rw [List.mem_append, List.mem_cons, not_or, not_or]
    exact ⟨crypto.rsa.notMem bodyText dash, by decide, crypto.rsa.notMem checkText dash⟩
  intro arrived removed
  obtain ⟨check', split, same⟩ :=
    splitKeyText_of_removed (crypto.rsa.notMem bodyText (by decide)) removed
  obtain ⟨answer, answered, imports⟩ :=
    importKey_imports crypto generates bodyText checkText split same newA
  have installedA := emplaceCipher_new newA { cipher := env.aesKey, myString := [] }
  refine ⟨_, _, imports, emplaceCipher_keepsOtherCiphers _ _ _,
    conveys_of_installed toB installedA rfl installedB rfl,
    conveys_of_installed toA installedB rfl installedA rfl, ?_⟩
  apply howeverItArrives (toB.notMem answered (by decide)) (toB.notMem answered (by decide))
  intro verification lost
  have decr := toB.decrypt_of_sameDigits answered lost.sameDigits
  simp only [checkVerificationString, installedB, decr]
  simp

end

namespace Sample

/-- A cipher that hides nothing behind Base64, for texts up to a length. -/
def armored (limit : Nat) (text : Str) : Except Exn Str :=
  if text.length ≤ limit then .ok (Base64.armor text)
  else .error { kind := .invalidArgument, what := str "message too long for this public key" }

/-- With a limit on the texts that fit. -/
theorem armored_armoredCipher {Fits : Str → Prop} {encrypt : Str → Except Exn Str}
    (fits : ∀ text, Fits text → encrypt text = .ok (Base64.armor text))
    (armors : ∀ text cipher, encrypt text = .ok cipher → cipher = Base64.armor text) :
    ArmoredCipher Fits encrypt fun cipher => .ok (Base64.decode cipher) where
  returns text small := ⟨_, fits text small⟩
  armored text cipher encrypted c member := by
    rw [armors text cipher encrypted] at member
    exact (Base64.mem_group member).imp_left isBase64_of_mem_encode
  inverts text cipher encrypted := by
    rw [armors text cipher encrypted, Base64.decode_armor]
  ignoresSpace cipher cipher' same := by
    rw [Base64.decode_of_sameDigits same]

/-- The platform of either party. -/
def base64Platform : Platform 64 :=
  { platform with
    width := width
    rsaDecrypt := fun cipher => .ok (Base64.decode cipher)
    aesEncrypt := fun _ text => .ok (Base64.armor text)
    aesDecrypt := fun _ cipher => .ok (Base64.decode cipher) }

def base64Env : Env 64 :=
  { env with
    resStr := (List.range 200).map fun n => if n % 3 = 0 then 48 else 65
    aesKey := {
      key := (List.range 32).map fun n => UInt8.ofNat (58 * n)
      iv := (List.range 16).map fun n => UInt8.ofNat (n * n) }
    rsaEncrypt := fun _ => armored 342 }

theorem base64_peerCryptography (key : PublicKey) :
    PeerCryptography base64Platform base64Platform base64Env key where
  rsa := by
    apply armored_armoredCipher
    · intro text small
      exact if_pos small
    · intro text cipher encrypted
      replace encrypted : armored 342 text = .ok cipher := encrypted
      unfold armored at encrypted
      split at encrypted
      · exact (Except.ok.inj encrypted).symm
      · cases encrypted
  toB _ _ _ := armored_armoredCipher (fun _ _ => rfl) fun _ _ encrypted =>
    (Except.ok.inj encrypted).symm
  toA _ _ _ := armored_armoredCipher (fun _ _ => rfl) fun _ _ encrypted =>
    (Except.ok.inj encrypted).symm

end Sample

/-- The two parties before any dialog. -/
theorem sample_key_agreed :
    AgreeOnKey Sample.base64Platform Sample.base64Platform Sample.base64Env (str "dialog")
      Sample.peer.adress Core.initial (Sample.run Sample.connect) := by
  apply session_key_agreed (Sample.base64_peerCryptography Sample.peer.publicKey)
  · exact ⟨by decide, by decide, by decide +kernel⟩
  · rfl
  · rfl
  · rfl

end SecureDialogues
