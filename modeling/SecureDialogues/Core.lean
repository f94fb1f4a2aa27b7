import SecureDialogues.Containers.DialogStorage
import SecureDialogues.Containers.MessageContainer
import SecureDialogues.Lib.Effect
import SecureDialogues.Primitives.Contact
import SecureDialogues.Utils.TimeoutedRepository

/-!
# The state of one instance

Everything that the classes wired together by `CoreInitializer`
(`messages/src/core-initializer/coreinitializer.cpp`) hold, in one record, and the interfaces to
the code outside the repository: the storages, the cryptography, the clock, the random numbers and
the transmission over a channel. An operation is a program over that record (`M`); the storages are
reached through copies of their records, as `wrapper`, `save` and `remove` of persistent-storage
do.
-/

namespace SecureDialogues

open Text Effect

/-- The classes of exceptions that the program tells apart or throws itself. -/
inductive ExnKind where
  | rangeError
  | outOfRange
  | invalidArgument
  | invalidDialogAction
  | badFormat
  | runtimeError
  | other
  deriving DecidableEq, Repr

/-- An exception derived from `std::exception`. -/
structure Exn where
  kind : ExnKind
  what : Str
  deriving DecidableEq, Repr

/-- A public RSA key, as its encoding. -/
abbrev PublicKey := Str

/-- `AesKeyStruct`. -/
structure AesKeyStruct where
  key : Str
  iv : Str
  deriving DecidableEq, Repr

/-- What is fixed for a build and an installation. -/
structure Platform (w : Nat) where
  /-- `unsigned int` has 32 bits and fits in `unsigned long`. -/
  width : 32 ≤ w
  /-- `assert` does nothing. -/
  ndebug : Bool
  /-- The catalogue of the user's language, domain `messages`. -/
  dgettext : Str → Str
  /-- What a storage throws when it is asked for an identifier it does not hold. -/
  absent : Str → Exn
  /-- What `add` of a storage throws for an identifier it holds already. -/
  duplicate : Str → Exn
  /-- `deserialize(message, RSA::PublicKey&)`. -/
  loadPublicKey : Str → Except Exn PublicKey
  /-- `serialize` of the own public key. -/
  exportPublicKey : Except Exn Str
  /-- `RemotePeerOperations::isValid(message, signature)`. -/
  isValid : PublicKey → Str → Str → Except Exn Bool
  /-- `LocalPeerOperations::decrypt`, under the own private key. -/
  rsaDecrypt : Str → Except Exn Str
  /-- `AesCipher::encrypt`. -/
  aesEncrypt : AesKeyStruct → Str → Except Exn Str
  /-- `AesCipher::decrypt`. -/
  aesDecrypt : AesKeyStruct → Str → Except Exn Str

/-- `AbstractUserNotifier::Severity`. -/
inductive Severity where
  | error
  | info
  deriving DecidableEq, Repr

/-- What happened to an instance. The last six kinds record what has no other trace. -/
inductive Event (w : Nat) where
  /-- A message was handed to a channel, which transmitted it or threw. -/
  | handed (channel : Str) (message : DialogMessage w) (sent : Bool)
  /-- `AbstractUserNotifier::notify`. -/
  | notified (severity : Severity) (text : Str)
  /-- An incoming control message reached `prepareForFoundDialog`. -/
  | controlTaken (dialogId : Str) (number : BitVec w)
  /-- The text of an incoming message was added to the message container. -/
  | textAdded (dialogId : Str) (number : BitVec w) (text : Str)
  | dialogAdded (dialogId : Str)
  | dialogRemoved (dialogId : Str)
  /-- A cipher was installed by `generateAndExportKey` or `importKey`. -/
  | keyInstalled (dialogId : Str)
  | restarted
  deriving DecidableEq, Repr

/-- What one operation gets from the outside. Signatures are randomised and a transmission can
fail at one attempt and succeed at the next, so both may depend on what happened so far. -/
structure Env (w : Nat) where
  /-- `std::chrono::system_clock::now()` in nanoseconds. -/
  systemClock : Int
  /-- `init_sequental` (`dialog.cpp:19-25`): a random `unsigned int`. -/
  initSequental : BitVec 32
  /-- `make_uiid` (`utils.cpp:6-10`). -/
  makeUiid : Str
  /-- The hexadecimal digits of 100 random bytes in `generateAndExportKey`. -/
  resStr : Str
  /-- `AesKeyGenerator().generate()`. -/
  aesKey : AesKeyStruct
  /-- `RemotePeerOperations::encrypt`, which is randomised. -/
  rsaEncrypt : PublicKey → Str → Except Exn Str
  /-- `LocalPeerOperations::createSign`, which is randomised. -/
  createSign : List (Event w) → Str → Except Exn Str
  /-- `AbstractChannelAdapter::send` of the named channel. -/
  send : List (Event w) → Str → DialogMessage w → Except Exn Unit

/-- `get_timestamp` (`utils.cpp:12-16`). -/
def Env.getTimestamp {w : Nat} (env : Env w) : BitVec w :=
  BitVec.ofInt w (env.systemClock.tdiv nanoseconds)

/-- The delivery handlers: `DialogActionDeliveryHandler`
(`dialogactiondeliveryhandler.cpp:13-37`), whose wrapper is reloaded before it is used and so is
only the dialog's identifier, and `MessageNotDeliveriedHandler`
(`messageactionhandler.cpp:24-37`). -/
inductive DeliveryHandler where
  | dialogAction (dialogId : Str) (mNext : Status) (mAbortNeed : Bool) (mAddress mChannel : Str)
  | messageNotDeliveried (dialogId : Str) (number : Nat)
  deriving DecidableEq, Repr

/-- `CryptoSystemImpl::RemoteElement`. -/
structure RemoteElement where
  addres : Str
  mOperation : PublicKey
  deriving DecidableEq, Repr

/-- `CryptoSystemImpl::DialogElement`. -/
structure DialogElement where
  cipher : AesKeyStruct
  myString : Str
  deriving DecidableEq, Repr

/-- The state of an instance. `mChannels` maps a channel to its waiting time for an ACK, in
seconds. -/
structure Core (w : Nat) where
  mDialogStorage : DialogStorage w
  mContactStorage : Table Contact
  mDiscoveredStorage : Table DiscoveredContact
  mRemote : Table RemoteElement
  mCiphers : Table DialogElement
  mMessageContainer : MessageContainer
  mRepo : TimeoutedRepository w DeliveryHandler
  mChannels : Table Nat
  log : List (Event w)
  alive : Bool
  deriving DecidableEq

/-- An operation of an instance. -/
abbrev M (w : Nat) := Eff (Core w) Exn

/-- `fmt::format` with the arguments put for the `\x7b\x7d` from left to right. -/
def format : Str → List Str → Str
  | [], _ => []
  | 123 :: 125 :: rest, arg :: args => arg ++ format rest args
  | c :: rest, args => c :: format rest args

section

variable {w : Nat} (p : Platform w)

/-- `fmt::format(dgettext("messages", msgid), args...)`. -/
def Platform.text (msgid : String) (args : List Str) : Str := format (p.dgettext (str msgid)) args

namespace Core

variable (s : Core w)

/-- A program that has never run. -/
def initial : Core w where
  mDialogStorage := .empty
  mContactStorage := ∅
  mDiscoveredStorage := ∅
  mRemote := ∅
  mCiphers := ∅
  mMessageContainer := .empty
  mRepo := ∅
  mChannels := ∅
  log := []
  alive := true

/-- The program started again over its storages (`coreinitializer.cpp:62-102`): what is not
stored on disk is empty. -/
def restart : Core w where
  mDialogStorage := s.mDialogStorage
  mContactStorage := s.mContactStorage
  mDiscoveredStorage := s.mDiscoveredStorage
  mRemote := ∅
  mCiphers := ∅
  mMessageContainer := .empty
  mRepo := ∅
  mChannels := ∅
  log := s.log ++ [.restarted]
  alive := true

def record (event : Event w) : Core w := { s with log := s.log ++ [event] }

/-- The `save` of a dialog wrapper: the record is written back and the listeners of the storage
hear of the change (`coreinitializer.cpp:98-101`). -/
def saveDialog (dialog : Dialog w) : Core w :=
  { s with
    mDialogStorage := s.mDialogStorage.put dialog
    mMessageContainer := s.mMessageContainer.dialogChanged p.dgettext dialog }

/-- The `add` of the dialog storage for a new identifier. -/
def addDialog (dialog : Dialog w) : Core w :=
  { s with
    mDialogStorage := s.mDialogStorage.put dialog
    log := s.log ++ [.dialogAdded dialog.mDialogId] }

/-- The `remove` of a dialog wrapper; the cipher goes with the dialog
(`cryptosystemimpl.cpp:158-163`). -/
def removeDialog (dialogId : Str) : Core w :=
  { s with
    mDialogStorage := s.mDialogStorage.remove dialogId
    mCiphers := s.mCiphers.erase dialogId
    log := s.log ++ [.dialogRemoved dialogId] }

/-- `mCiphers.emplace`: a dialog that has a cipher keeps it. -/
def emplaceCipher (dialogId : Str) (element : DialogElement) : Core w :=
  if dialogId ∈ s.mCiphers then s
  else { s with
    mCiphers := s.mCiphers.insert dialogId element
    log := s.log ++ [.keyInstalled dialogId] }

end Core

/-! ## The storages -/

/-- `mDialogStorage->wrapper(id)` and the `reload` of a wrapper: a copy of the record. -/
def wrapper (dialogId : Str) : M w (Dialog w) :=
  Eff.readsOr fun s =>
    match s.mDialogStorage.find dialogId with
    | some dialog => .ok dialog
    | none => .error (p.absent dialogId)

/-- `mContactStorage->get(id)`. -/
def getContact (contactId : Str) : M w Contact :=
  Eff.readsOr fun s =>
    match s.mContactStorage[contactId]? with
    | some contact => .ok contact
    | none => .error (p.absent contactId)

/-- The `save` of a dialog wrapper. -/
def save (dialog : Dialog w) : M w Unit := Eff.update fun s => s.saveDialog p dialog

/-- The `add` of the dialog storage. -/
def addDialog (dialog : Dialog w) : M w Unit := do
  let dialogs ← Eff.reads (·.mDialogStorage)
  if dialogs.has dialog.mDialogId then Eff.raise (p.duplicate dialog.mDialogId)
  else Eff.update (·.addDialog dialog)

/-- `AbstractUserNotifier::notify`. -/
def notify (severity : Severity) (text : Str) : M w Unit :=
  Eff.update (·.record (.notified severity text))

/-- `Dialog::setStatus` (`dialog.cpp:37-45`). -/
def setStatus (dialog : Dialog w) (status : Status) : M w (Dialog w) :=
  if isStateTransitionAllowed dialog.mStatus status then pure (dialog.withStatus status)
  else Eff.raise {
    kind := .runtimeError
    what := p.text "Dialog status transision from state \x7b\x7d to \x7b\x7d is not allowed"
      [printNat dialog.mStatus.toNat, printNat status.toNat] }

end

end SecureDialogues
