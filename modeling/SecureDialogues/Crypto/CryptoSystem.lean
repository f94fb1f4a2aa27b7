import SecureDialogues.Core
import SecureDialogues.Utils.MessageMarshaller

/-!
# The cryptographic state

`messages/src/crypto/cryptosystemimpl.cpp` and the text form of a session key,
`encryption/src/serialization/serializations.cpp`.
-/

namespace SecureDialogues

open Text Effect

/-! ## The text of a session key -/

/-- `serialize` before the encryption (`serializations.cpp:38-51`). -/
def AesKeyStruct.serialize (object : AesKeyStruct) : Str :=
  printNat object.key.length ++ colon :: object.key ++
    printNat object.iv.length ++ colon :: object.iv

/-- The exception of `std::stoi`. -/
def stoiError : NumberError → Exn
  | .invalidArgument => { kind := .invalidArgument, what := str "stoi" }
  | .outOfRange => { kind := .outOfRange, what := str "stoi" }

/-- `readBlock` (`serializations.cpp:15-28`) on the rest of a stream, which is `none` once the
end of the stream was hit: nothing is read then, and a block that is not filled keeps zeros. -/
def readBlock (ss : Option Str) : Except Exn (Str × Option Str) :=
  match ss with
  | none | some [] => .error (stoiError .invalidArgument)
  | some text =>
    let size := text.takeWhile (· ≠ colon)
    let rest := match text.drop size.length with
      | [] => none
      | _ :: rest => some rest
    match stol 32 size with
    | .error e => .error (stoiError e)
    | .ok isize =>
      if isize.toInt ≤ 0 then
        .error { kind := .badFormat, what := str "message have a bad format" }
      else
        match rest with
        | none => .ok (List.replicate isize.toNat 0, none)
        | some rest =>
          if isize.toNat ≤ rest.length then
            .ok (rest.take isize.toNat, some (rest.drop isize.toNat))
          else .ok (rest ++ List.replicate (isize.toNat - rest.length) 0, none)

/-- `deserialize` after the decryption (`serializations.cpp:30-36, 76-82`). -/
def AesKeyStruct.deserialize (text : Str) : Except Exn AesKeyStruct := do
  let (key, rest) ← readBlock (some text)
  let (iv, _) ← readBlock rest
  pure { key, iv }

section

variable {w : Nat} (p : Platform w) (env : Env w)

/-- `createSymmetricalCipherFrom` (`symetricalsystemfactories.cpp:12-18`). -/
def createSymmetricalCipherFrom (message : Str) : Except Exn AesKeyStruct := do
  let text ← p.rsaDecrypt message
  AesKeyStruct.deserialize text

/-- `generateSymmetricalCipherTo` (`symetricalsystemfactories.cpp:20-26`): the cipher and the
message. -/
def generateSymmetricalCipherTo (encryptor : PublicKey) : Except Exn (AesKeyStruct × Str) := do
  let message ← env.rsaEncrypt encryptor env.aesKey.serialize
  pure (env.aesKey, message)

/-! ## Peers -/

/-- `getRemoteByAdress` (`cryptosystemimpl.cpp:165-181`). -/
def getRemoteByAdress (mRemote : Table RemoteElement) (adress : Str) : Except Exn PublicKey :=
  match mRemote.toList.find? fun element => element.2.addres == adress with
  | some element => .ok element.2.mOperation
  | none => .error {
      kind := .rangeError
      what := p.text "not found contact with adress \x7b\x7d" [adress] }

/-- `isSignatureOk` (`cryptosystemimpl.cpp:32-38`). -/
def isSignatureOk (mRemote : Table RemoteElement) (message : DialogMessage w) :
    Except Exn Bool := do
  let strRepr := marshallExceptSignature message
  let elem ← getRemoteByAdress p mRemote message.mAdress
  p.isValid elem strRepr message.mSign

/-- `createSignature` (`cryptosystemimpl.cpp:40-45`). -/
def createSignature (message : DialogMessage w) : M w Str :=
  Eff.readsOr fun s => env.createSign s.log (marshall message)

/-- `updateContact` (`cryptosystemimpl.cpp:143-151`). -/
def updateContact (contact : Contact) : M w Unit := do
  let pub ← Eff.readsOr fun _ => p.loadPublicKey contact.publicKey
  Eff.update fun s => { s with
    mRemote := s.mRemote.insert contact.id { addres := contact.adress, mOperation := pub } }

/-! ## Session keys -/

/-- `generateAndExportKey` (`cryptosystemimpl.cpp:47-73`). -/
def generateAndExportKey (dialogId addres : Str) : M w Str := do
  let elem ← Eff.readsOr fun s => getRemoteByAdress p s.mRemote addres
  let (cipher, messBody) ← Eff.readsOr fun _ => generateSymmetricalCipherTo env elem
  Eff.update fun s => s.emplaceCipher dialogId { cipher, myString := env.resStr }
  let encrCheck ← Eff.readsOr fun _ => env.rsaEncrypt elem env.resStr
  pure (messBody ++ str "," ++ encrCheck)

/-- The comma between the key and the verification string. -/
abbrev comma : UInt8 := 44

/-- The two halves of the text that `importKey` gets (`cryptosystemimpl.cpp:78-81`). Without a
comma `find` gives `npos`, and both are the whole text. -/
def splitKeyText (message : Str) : Str × Str :=
  let key := message.takeWhile (· ≠ comma)
  match message.drop key.length with
  | [] => (message, message)
  | _ :: verification => (key, verification)

/-- `importKey` (`cryptosystemimpl.cpp:75-94`). -/
def importKey (dialogId message : Str) : M w Str := do
  let (key, verification) := splitKeyText message
  let cipher ← Eff.readsOr fun _ => createSymmetricalCipherFrom p key
  Eff.update fun s => s.emplaceCipher dialogId { cipher, myString := [] }
  let decr ← Eff.readsOr fun _ => p.rsaDecrypt verification
  Eff.readsOr fun s =>
    match s.mCiphers[dialogId]? with
    | some element => p.aesEncrypt element.cipher decr
    | none => .error {
        kind := .outOfRange
        what := str "out of range for the CryptoSystemImpl::importKey" }

/-- `checkVerificationString` (`cryptosystemimpl.cpp:96-106`). -/
def checkVerificationString (mCiphers : Table DialogElement) (dialogId message : Str) :
    Except Exn Bool :=
  match mCiphers[dialogId]? with
  | some element => do
    let decr ← p.aesDecrypt element.cipher message
    pure (decr == element.myString)
  | none => .ok false

/-- The exception of a text for a dialog without a cipher. -/
def cantFindDialog (dialogId : Str) : Exn where
  kind := .runtimeError
  what := p.text "Cant find dialog \x7b\x7d" [dialogId]

/-- `encryptMessageBody` (`cryptosystemimpl.cpp:108-117`). -/
def encryptMessageBody (mCiphers : Table DialogElement) (dialogId message : Str) :
    Except Exn Str :=
  match mCiphers[dialogId]? with
  | some element => p.aesEncrypt element.cipher message
  | none => .error (cantFindDialog p dialogId)

/-- `decryptMessageBody` (`cryptosystemimpl.cpp:119-128`). -/
def decryptMessageBody (mCiphers : Table DialogElement) (dialogId message : Str) :
    Except Exn Str :=
  match mCiphers[dialogId]? with
  | some element => p.aesDecrypt element.cipher message
  | none => .error (cantFindDialog p dialogId)

end

end SecureDialogues
