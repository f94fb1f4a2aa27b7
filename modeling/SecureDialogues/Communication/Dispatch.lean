import SecureDialogues.Communication.DialogActionHandler
import SecureDialogues.Communication.MessageActionHandler

/-!
# Receiving

The receiving half of `messages/src/communication/messagedespatcher.cpp`, with
`despatcherrorssink.cpp` and `discovercontactagent.cpp`.
-/

namespace SecureDialogues

open Text Effect

/-- `DespatchError`. -/
inductive DespatchError where
  | contactNotFound
  | exceptionThrown
  | signatureBroken
  | messageExpired
  deriving DecidableEq, Repr

namespace DiscoverContactAgent

/-- `ContentDelitimer` (`discovercontactagent.cpp:9`). -/
def contentDelitimer : Str := str "\n------------------------------\n"

/-- `getNameAndPublickKey` (`discovercontactagent.cpp:26-38`). The name ends at the first
character that occurs in the delimiter; `substr` throws if the rest is shorter than the
delimiter. -/
def getNameAndPublickKey {w : Nat} (p : Platform w) (content : Str) : Except Exn (Str × Str) :=
  let name := content.takeWhile fun c => c ∉ contentDelitimer
  if name.length = content.length then
    .error {
      kind := .runtimeError
      what := p.text ("Cant find delitimer for name and public " ++
        "key for recieved contact information") [] }
  else if content.length < name.length + contentDelitimer.length then
    .error { kind := .outOfRange, what := str "basic_string_view::substr" }
  else .ok (name, content.drop (name.length + contentDelitimer.length))

/-- The message of `discover` (`discovercontactagent.cpp:40-52`); its number is random like an
initial sequence number. -/
def discoverMessage {w : Nat} (env : Env w) (number : BitVec 32) (name key address : Str) :
    DialogMessage w :=
  .make env.getTimestamp .contactDiscover (name ++ contentDelitimer ++ key) env.makeUiid address
    (number.setWidth w) []

end DiscoverContactAgent

section

variable {w : Nat} (p : Platform w) (env : Env w)

/-- `DespatchErrorsSink::error` (`despatcherrorssink.cpp:14-54`); what it only logs is left
out. -/
def despatchError (error : DespatchError) (message : DialogMessage w) (channelMoniker : Str) :
    M w Unit :=
  match error with
  | .contactNotFound =>
    if message.mAction = .contactDiscover then do
      let (name, publicKey) ← Eff.readsOr fun _ =>
        DiscoverContactAgent.getNameAndPublickKey p message.mContent
      let discovered ← Eff.reads (·.mDiscoveredStorage)
      if message.mDialogId ∈ discovered then Eff.raise (p.duplicate message.mDialogId)
      else Eff.update fun s => { s with
        mDiscoveredStorage := s.mDiscoveredStorage.insert message.mDialogId {
          created := env.systemClock
          channelMoniker
          contactAdress := message.mAdress
          publicKey
          name
          dialogId := message.mDialogId } }
    else pure ()
  | .exceptionThrown | .signatureBroken | .messageExpired => pure ()

/-- `MessageDespatcher::isSignatureValid` (`messagedespatcher.cpp:139-152`), a `noexcept`
function: an exception of the error sink terminates the program. -/
def isSignatureValid (message : DialogMessage w) (channelName : Str) : M w Bool :=
  Eff.noexcept do
    let valid ← Eff.reads fun s => isSignatureOk p s.mRemote message
    match valid with
    | .ok valid => pure valid
    | .error e => do
      if e.kind = .rangeError then despatchError p env .contactNotFound message channelName
      else despatchError p env .exceptionThrown message channelName
      pure false

/-- `MAX_TIMESTAMP_DIFF` (`constants.h:4`), in seconds. -/
def maxTimestampDiff : Int := 140

/-- `get_timestamp() - message.timestamp() > MAX_TIMESTAMP_DIFF`, in the signed arithmetic of
`long`. -/
def isExpired (message : DialogMessage w) : Prop :=
  (env.getTimestamp - message.mTimestamp).toInt > maxTimestampDiff

instance (message : DialogMessage w) : Decidable (isExpired env message) :=
  inferInstanceAs (Decidable (_ > _))

/-- The handlers in the order in which `CoreInitializer::init` adds them
(`messagedespatcher.cpp:55-59`). -/
def runHandlers (message : DialogMessage w) (channelName : Str) : M w Unit := do
  if MessageActionHandler.isItYouAction message.mAction then
    MessageActionHandler.handle p env message channelName
  if DialogActionHandler.isItYouAction message.mAction then
    DialogActionHandler.handle p env message channelName

/-- The part of `dispatch` for everything but ACKs. -/
def dispatchMessage (message : DialogMessage w) (channelName : Str) : M w Unit := do
  sendAck env message channelName
  let valid ← isSignatureValid p env message channelName
  if valid = false then despatchError p env .signatureBroken message channelName
  else if isExpired env message then despatchError p env .messageExpired message channelName
  else runHandlers p env message channelName

/-- `MessageDespatcher::dispatch` (`messagedespatcher.cpp:34-62`). -/
def dispatch (message : DialogMessage w) (channelName : Str) : M w Unit :=
  Eff.noexcept do
    if message.mAction = .ack then do
      let _ ← removeEntry p (message.mDialogId, message.mSequentialNumber)
      pure ()
    else dispatchMessage p env message channelName

end

end SecureDialogues
