import SecureDialogues.Crypto.InitialVectors
import SecureDialogues.Lib.Files

/-!
# The files of the own keys

`encryption/src/serialization/fileasynckeyserializer.cpp`. The public and the private key of the user
have a file each, which holds their encoding, encrypted under a key made of the password.
-/

namespace SecureDialogues

open Text

/-- What the program takes from Crypto++ for passwords and RSA keys. -/
structure CryptoPP (Pub Priv : Type) where
  /-- `makeDigest` (`passask.cpp:13-22`): SHA-256, in hexadecimal digits. -/
  makeDigest : Str → Str
  /-- `HKDF<SHA256>::DeriveKey`, without salt. -/
  deriveKey : Str → Str
  /-- AES under a key. -/
  aes : Str → Str → Str
  derEncodePublicKey : Pub → Str
  berDecodePublicKey : Str → Except Exn Pub
  derEncodePrivateKey : Priv → Str
  berDecodePrivateKey : Str → Except Exn Priv
  /-- The public key of the parameters that a private key is made of. -/
  publicKey : Priv → Pub

/-- `KeyTraits<Key>` (`fileasynckeyserializer.cpp:17-43`). -/
structure KeyTraits (Key : Type) where
  fileExtension : Str
  encode : Key → Str
  decode : Str → Except Exn Key

/-- An encoding can be decoded, and a shorter beginning of it cannot. -/
structure KeyTraits.IsDer {Key : Type} (traits : KeyTraits Key) : Prop where
  filled : ∀ key, traits.encode key ≠ []
  decodes : ∀ key, traits.decode (traits.encode key) = .ok key
  refuses : ∀ key text, text <+: traits.encode key → text ≠ traits.encode key →
    ∃ e, traits.decode text = .error e

/-! ## One key -/

namespace KeyLoader

variable {Key : Type} (traits : KeyTraits Key) (aes : Str → Str → Str) (fileTemplate : Str)
  (cipher : AesKeyStruct)

/-- The name of the file. -/
def filename : Str := fileTemplate ++ str "." ++ traits.fileExtension

/-- `KeyLoader<Key>::saveKey` (`fileasynckeyserializer.cpp:59-76`). -/
def saveKey (key : Key) : Files.Write where
  file := filename traits fileTemplate
  text := AesCipher.encrypt aes cipher (traits.encode key)

/-- `KeyLoader<Key>::loadKey` (`fileasynckeyserializer.cpp:78-100`). -/
def loadKey (files : Files) : Except Exn Key :=
  traits.decode (AesCipher.decrypt aes cipher (files.read (filename traits fileTemplate)))

/-- So many bytes of the file hold the whole encoding. -/
def IsWhole (key : Key) (filled : Nat) : Prop :=
  AesCipher.decrypt aes cipher ((saveKey traits aes fileTemplate cipher key).text.take filled) =
    traits.encode key

instance (key : Key) (filled : Nat) : Decidable (IsWhole traits aes fileTemplate cipher key filled) :=
  inferInstanceAs (Decidable (_ = _))

variable {traits aes fileTemplate cipher}

theorem decrypt_encrypt (text : Str) :
    AesCipher.decrypt aes cipher (AesCipher.encrypt aes cipher text) = text := by
  rw [AesCipher.decrypt, AesCipher.encrypt, Base64.decode_armor, Cfb.decrypt_encrypt]

/-- The start of a file decrypts to the start of the text. -/
theorem decrypt_take_encrypt (text : Str) (filled : Nat) :
    AesCipher.decrypt aes cipher ((AesCipher.encrypt aes cipher text).take filled) <+: text := by
  have begins := Base64.decode_isPrefix (List.take_prefix filled (AesCipher.encrypt aes cipher text))
  have whole : Cfb.unfeed (aes cipher.key) [] cipher.iv
      (Base64.decode (AesCipher.encrypt aes cipher text)) = text := decrypt_encrypt text
  calc AesCipher.decrypt aes cipher ((AesCipher.encrypt aes cipher text).take filled)
    _ <+: Cfb.unfeed (aes cipher.key) [] cipher.iv
        (Base64.decode (AesCipher.encrypt aes cipher text)) := Cfb.unfeed_isPrefix _ _ begins
    _ = text := whole

theorem isWhole_length (key : Key) {filled : Nat}
    (long : (saveKey traits aes fileTemplate cipher key).text.length ≤ filled) :
    IsWhole traits aes fileTemplate cipher key filled := by
  rw [IsWhole, List.take_of_length_le long]
  exact decrypt_encrypt _

theorem loadKey_of_read {files files' : Files}
    (same : files'.read (filename traits fileTemplate) = files.read (filename traits fileTemplate)) :
    loadKey traits aes fileTemplate cipher files' = loadKey traits aes fileTemplate cipher files := by
  rw [loadKey, loadKey, same]

/-- A key that is written to its end is read again. -/
theorem loadKey_of_whole (der : traits.IsDer) {key : Key} {filled : Nat}
    (whole : IsWhole traits aes fileTemplate cipher key filled) {files : Files}
    (text : files.read (filename traits fileTemplate) =
      (saveKey traits aes fileTemplate cipher key).text.take filled) :
    loadKey traits aes fileTemplate cipher files = .ok key := by
  rw [loadKey, text, whole, der.decodes]

/-- A key that is not written to its end is not read. -/
theorem loadKey_of_part (der : traits.IsDer) {key : Key} {filled : Nat}
    (part : ¬ IsWhole traits aes fileTemplate cipher key filled) {files : Files}
    (text : files.read (filename traits fileTemplate) =
      (saveKey traits aes fileTemplate cipher key).text.take filled) :
    ∃ e, loadKey traits aes fileTemplate cipher files = .error e := by
  rw [loadKey, text]
  exact der.refuses key _ (decrypt_take_encrypt _ _) part

end KeyLoader

/-! ## Both keys -/

namespace CryptoPP

variable {Pub Priv : Type} (crypto : CryptoPP Pub Priv)

def publicTraits : KeyTraits Pub where
  fileExtension := str "PUB"
  encode := crypto.derEncodePublicKey
  decode := crypto.berDecodePublicKey

def privateTraits : KeyTraits Priv where
  fileExtension := str "PRV"
  encode := crypto.derEncodePrivateKey
  decode := crypto.berDecodePrivateKey

/-- Both kinds of keys are encoded in DER. -/
structure IsStandard : Prop where
  publicDer : crypto.publicTraits.IsDer
  privateDer : crypto.privateTraits.IsDer

/-- `makeForStringPass` (`symetricalsystemfactories.cpp:29-37`). CFB starts from zeros if the
initialisation vector is empty. -/
def makeForStringPass (pass : Str) : AesKeyStruct where
  key := crypto.deriveKey pass
  iv := List.replicate 16 0

end CryptoPP

namespace FileAsyncKeySerializer

variable {Pub Priv : Type} (crypto : CryptoPP Pub Priv) (mFileTemplate : Str) (mCipher : AesKeyStruct)

/-- What `FileAsyncKeySerializer::serialize` (`fileasynckeyserializer.cpp:108-118`) writes. -/
def serialize (pub : Pub) (priv : Priv) : List Files.Write :=
  [KeyLoader.saveKey crypto.publicTraits crypto.aes mFileTemplate mCipher pub,
    KeyLoader.saveKey crypto.privateTraits crypto.aes mFileTemplate mCipher priv]

/-- `FileAsyncKeySerializer::deserialize` (`fileasynckeyserializer.cpp:120-129`). -/
def deserialize (files : Files) : Except Exn (Pub × Priv) := do
  let priv ← KeyLoader.loadKey crypto.privateTraits crypto.aes mFileTemplate mCipher files
  let pub ← KeyLoader.loadKey crypto.publicTraits crypto.aes mFileTemplate mCipher files
  return (pub, priv)

variable {crypto mFileTemplate mCipher}

theorem filename_ne : KeyLoader.filename crypto.publicTraits mFileTemplate ≠
    KeyLoader.filename crypto.privateTraits mFileTemplate := by
  intro same
  have extensions : str "PUB" = str "PRV" := List.append_cancel_left same
  exact absurd extensions (by decide)

/-- Both keys are read, or none. -/
theorem deserialize_eq_ok {files : Files} {pub : Pub} {priv : Priv} :
    deserialize crypto mFileTemplate mCipher files = .ok (pub, priv) ↔
      KeyLoader.loadKey crypto.privateTraits crypto.aes mFileTemplate mCipher files = .ok priv ∧
        KeyLoader.loadKey crypto.publicTraits crypto.aes mFileTemplate mCipher files = .ok pub := by
  rw [deserialize]
  cases KeyLoader.loadKey crypto.privateTraits crypto.aes mFileTemplate mCipher files <;>
    cases KeyLoader.loadKey crypto.publicTraits crypto.aes mFileTemplate mCipher files <;>
      simp [bind, Except.bind, pure, Except.pure, and_comm]

/-- A file that is not there holds no key. -/
theorem deserialize_ne_ok (standard : crypto.IsStandard) {files : Files}
    (absent : files.read (KeyLoader.filename crypto.privateTraits mFileTemplate) = [])
    (keys : Pub × Priv) : deserialize crypto mFileTemplate mCipher files ≠ .ok keys := by
  intro loaded
  obtain ⟨loaded, -⟩ := deserialize_eq_ok.mp loaded
  have filled := standard.privateDer.filled keys.2
  obtain ⟨e, refused⟩ := standard.privateDer.refuses keys.2 [] List.nil_prefix (Ne.symm filled)
  rw [KeyLoader.loadKey, absent] at loaded
  cases refused.symm.trans loaded

section

variable (standard : crypto.IsStandard) (files : Files) (pub : Pub) (priv : Priv) (filled : Nat)
include standard

/-- What is read after the file of the public key has been written in part. -/
theorem deserialize_publicPart {keys : Pub × Priv} :
    deserialize crypto mFileTemplate mCipher
        (files.writePart (serialize crypto mFileTemplate mCipher pub priv) 0 filled) = .ok keys ↔
      KeyLoader.loadKey crypto.privateTraits crypto.aes mFileTemplate mCipher files = .ok keys.2 ∧
        KeyLoader.IsWhole crypto.publicTraits crypto.aes mFileTemplate mCipher pub filled ∧
          keys.1 = pub := by
  have text := Files.read_write_self files ⟨KeyLoader.filename crypto.publicTraits
    mFileTemplate, (KeyLoader.saveKey crypto.publicTraits crypto.aes mFileTemplate mCipher pub).text.take
      filled⟩
  have other : KeyLoader.loadKey crypto.privateTraits crypto.aes mFileTemplate mCipher
      (files.writePart (serialize crypto mFileTemplate mCipher pub priv) 0 filled) =
      KeyLoader.loadKey crypto.privateTraits crypto.aes mFileTemplate mCipher files :=
    KeyLoader.loadKey_of_read (Files.read_write_of_ne filename_ne)
  rw [← Prod.mk.eta (p := keys), deserialize_eq_ok, other]
  apply and_congr_right
  intro _
  by_cases whole : KeyLoader.IsWhole crypto.publicTraits crypto.aes mFileTemplate mCipher pub filled
  · have loaded := KeyLoader.loadKey_of_whole standard.publicDer whole text
    exact ⟨fun read => ⟨whole, Except.ok.inj (read.symm.trans loaded)⟩, fun read => read.2 ▸ loaded⟩
  · obtain ⟨e, failed⟩ := KeyLoader.loadKey_of_part standard.publicDer whole text
    refine ⟨fun read => ?_, fun read => absurd read.1 whole⟩
    cases failed.symm.trans read

/-- What is read after the file of the public key has been written, and that of the private key in
part. -/
theorem deserialize_privatePart {keys : Pub × Priv} :
    deserialize crypto mFileTemplate mCipher
        (files.writePart (serialize crypto mFileTemplate mCipher pub priv) 1 filled) = .ok keys ↔
      KeyLoader.IsWhole crypto.privateTraits crypto.aes mFileTemplate mCipher priv filled ∧
        keys = (pub, priv) := by
  have publicText := Files.read_write_self files
    (KeyLoader.saveKey crypto.publicTraits crypto.aes mFileTemplate mCipher pub)
  have privateText := Files.read_write_self
    (files.write (KeyLoader.saveKey crypto.publicTraits crypto.aes mFileTemplate mCipher pub))
    ⟨KeyLoader.filename crypto.privateTraits mFileTemplate,
      (KeyLoader.saveKey crypto.privateTraits crypto.aes mFileTemplate mCipher priv).text.take filled⟩
  have loaded : KeyLoader.loadKey crypto.publicTraits crypto.aes mFileTemplate mCipher
      (files.writePart (serialize crypto mFileTemplate mCipher pub priv) 1 filled) = .ok pub := by
    apply KeyLoader.loadKey_of_whole standard.publicDer (KeyLoader.isWhole_length pub le_rfl)
    rw [List.take_length, ← publicText]
    exact Files.read_write_of_ne filename_ne.symm
  rw [← Prod.mk.eta (p := keys), deserialize_eq_ok, loaded, Prod.mk.injEq]
  by_cases whole : KeyLoader.IsWhole crypto.privateTraits crypto.aes mFileTemplate mCipher priv filled
  · have loaded' := KeyLoader.loadKey_of_whole standard.privateDer whole privateText
    constructor
    · rintro ⟨read, same⟩
      exact ⟨whole, (Except.ok.inj same).symm, Except.ok.inj (read.symm.trans loaded')⟩
    · rintro ⟨-, rfl, same⟩
      exact ⟨same ▸ loaded', rfl⟩
  · obtain ⟨e, failed⟩ := KeyLoader.loadKey_of_part standard.privateDer whole privateText
    refine ⟨fun read => ?_, fun read => absurd read.1 whole⟩
    cases failed.symm.trans read.1

/-- What is read after both files have been written. -/
theorem deserialize_writeAll :
    deserialize crypto mFileTemplate mCipher
      (files.writeAll (serialize crypto mFileTemplate mCipher pub priv)) = .ok (pub, priv) := by
  have same : files.writeAll (serialize crypto mFileTemplate mCipher pub priv) =
      files.writePart (serialize crypto mFileTemplate mCipher pub priv) 1
        (KeyLoader.saveKey crypto.privateTraits crypto.aes mFileTemplate mCipher priv).text.length := by
    simp [Files.writeAll, Files.writePart, serialize]
  rw [same, deserialize_privatePart standard]
  exact ⟨KeyLoader.isWhole_length priv le_rfl, rfl⟩

end

end FileAsyncKeySerializer

namespace Sample

/-- A key as the content of an octet string with a short length. -/
abbrev KeyText := { text : Str // text.length < 128 }

def encodeKey (key : KeyText) : Str := 4 :: UInt8.ofNat key.1.length :: key.1

def decodeKey : Str → Except Exn KeyText
  | 4 :: length :: text =>
    if short : text.length < 128 then
      if length.toNat = text.length then .ok ⟨text, short⟩ else .error ⟨.other, str "BER decode error"⟩
    else .error ⟨.other, str "BER decode error"⟩
  | _ => .error ⟨.other, str "BER decode error"⟩

def keyCrypto : CryptoPP KeyText KeyText where
  makeDigest text := text
  deriveKey pass := pass
  aes _ block := block
  derEncodePublicKey := encodeKey
  berDecodePublicKey := decodeKey
  derEncodePrivateKey := encodeKey
  berDecodePrivateKey := decodeKey
  publicKey priv := ⟨priv.1.reverse, by simpa using priv.2⟩

theorem isDer_encodeKey (extension : Str) :
    KeyTraits.IsDer ⟨extension, encodeKey, decodeKey⟩ where
  filled key := by simp [encodeKey]
  decodes := by
    rintro ⟨text, short⟩
    simp [encodeKey, decodeKey, short]
    omega
  refuses := by
    rintro ⟨key, short⟩ text begins differs
    rcases text with _ | ⟨tag, _ | ⟨length, text⟩⟩
    · exact ⟨_, rfl⟩
    · exact ⟨⟨.other, str "BER decode error"⟩, by simp [decodeKey]⟩
    · simp only [encodeKey, List.cons_prefix_cons] at begins
      obtain ⟨rfl, rfl, begins⟩ := begins
      have shorter : text.length < key.length := by
        apply begins.length_le.lt_of_ne
        intro same
        exact differs (by simp [encodeKey, begins.eq_of_length same])
      have small : text.length < 128 := shorter.trans short
      have other : key.length % 256 ≠ text.length := by omega
      exact ⟨⟨.other, str "BER decode error"⟩, by simp [decodeKey, small, other]⟩

theorem isStandard_keyCrypto : keyCrypto.IsStandard where
  publicDer := isDer_encodeKey _
  privateDer := isDer_encodeKey _

end Sample

end SecureDialogues
