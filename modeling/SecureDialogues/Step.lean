import SecureDialogues.Communication.Dispatch
import SecureDialogues.Lib.Run

/-!
# Runs of one instance

The operations of an instance, each executed atomically: what the user does, an incoming message,
the expiry of a pending delivery, and the end and a new start of the program.
-/

namespace SecureDialogues

open Text Effect

/-- What can happen to an instance. -/
inductive Input (w : Nat) where
  /-- A contact is added to the storage or changed in it. -/
  | saveContact (contact : Contact)
  /-- A connection is opened as a channel, with its waiting time for an ACK in seconds. -/
  | addChannel (name : Str) (waitAckInterval : Nat)
  | removeChannel (name : Str)
  | createDialog (contact : Contact)
  | closeDialog (dialogId : Str)
  | abortDialog (dialogId : Str)
  | removeDialog (dialogId : Str)
  | setActiveDialog (dialogId : Str)
  | sendMessage (text : Str)
  /-- A message parsed from the channel is given to the despatcher. -/
  | dispatch (message : DialogMessage w) (channelName : Str)
  /-- The checking thread comes to the pending entry under a key. -/
  | expire (k : NumberedKey w)
  /-- The program is started again over its storages. -/
  | restart
  deriving DecidableEq

section

variable {w : Nat} (p : Platform w)

/-- `add` and `save` of the contact storage with its listener
(`cryptosystemcontactupdateinformator.cpp`). -/
def saveContact (contact : Contact) : M w Unit := do
  Eff.update fun s => { s with
    mContactStorage := s.mContactStorage.insert contact.id contact }
  updateContact p contact

/-- `MessageDespatcher::add` of a channel (`messagedespatcher.cpp:109-115`). The assertion fails
for a name that is taken; without it a running thread would be assigned over, which terminates as
well. -/
def addChannel (name : Str) (waitAckInterval : Nat) : M w Unit := do
  let channels ← Eff.reads (·.mChannels)
  if name ∈ channels then Eff.terminate
  else Eff.update fun s => { s with mChannels := s.mChannels.insert name waitAckInterval }

/-- `MessageDespatcher::removeChannel` (`messagedespatcher.cpp:154-158`). -/
def removeChannel (name : Str) : M w Unit :=
  Eff.update fun s => { s with mChannels := s.mChannels.erase name }

/-- The program behind an input. -/
def perform (env : Env w) : Input w → M w Unit
  | .saveContact contact => saveContact p contact
  | .addChannel name waitAckInterval => addChannel name waitAckInterval
  | .removeChannel name => removeChannel name
  | .createDialog contact => DialogActionHandler.createDialog p env contact
  | .closeDialog dialogId => DialogActionHandler.closeDialog p env dialogId
  | .abortDialog dialogId => DialogActionHandler.abortDialog p env dialogId
  | .removeDialog dialogId => DialogActionHandler.removeDialog p env dialogId
  | .setActiveDialog dialogId => MessageActionHandler.setActiveDialog dialogId
  | .sendMessage text => MessageActionHandler.sendMessage p env text
  | .dispatch message channelName => dispatch p env message channelName
  | .expire k => expireEntry p env k
  | .restart => Eff.update Core.restart

/-- The state after a step. An exception of a user's operation ends at the user interface
(`dialogactionhandlerwrapper.cpp`); termination ends the program, which then only a new start
brings back. -/
def exec (env : Env w) (input : Input w) (s : Core w) : Core w :=
  if s.alive ∨ input = .restart then
    match perform p env input s with
    | (.error .terminated, s') => { s' with alive := false }
    | (_, s') => s'
  else s

/-- A step: its outside world and its input. -/
abbrev Step (w : Nat) := Env w × Input w

/-- The step function of an instance. -/
def next (s : Core w) (step : Step w) : Core w := exec p step.1 step.2 s

/-- The program that is not running does nothing until it is started again. -/
theorem exec_of_dead (env : Env w) {input : Input w} {s : Core w}
    (dead : ¬ (s.alive = true ∨ input = .restart)) : exec p env input s = s := by
  rw [exec, if_neg dead]

/-- The running program performs the input, and then runs on or not. -/
theorem exec_of_alive (env : Env w) (input : Input w) {s : Core w} (alive : s.alive = true) :
    ∃ running, exec p env input s = { (perform p env input s).2 with alive := running } := by
  rw [exec, if_pos (.inl alive)]
  rcases perform p env input s with ⟨(e | _) | u, s'⟩
  · exact ⟨s'.alive, rfl⟩
  · exact ⟨false, rfl⟩
  · exact ⟨s'.alive, rfl⟩

theorem exec_restart (env : Env w) (s : Core w) : exec p env .restart s = s.restart := by
  rw [exec, if_pos (.inr rfl)]
  rfl

end

/-! ## A concrete installation

A release build for 64 bits with one peer, whose ciphers leave the text as it is and whose
signatures are all the same word. -/

namespace Sample

/-- The `unsigned long` of the build. -/
theorem width : 32 ≤ 64 := by decide

def platform : Platform 64 where
  width := width
  ndebug := true
  dgettext := id
  absent dialogId := { kind := .outOfRange, what := dialogId }
  duplicate dialogId := { kind := .other, what := dialogId }
  loadPublicKey := .ok
  exportPublicKey := .ok (str "own key")
  isValid _ _ sign := .ok (sign == str "c2lnbg==")
  rsaDecrypt := .ok
  aesEncrypt _ := .ok
  aesDecrypt _ := .ok

def env : Env 64 where
  systemClock := 0
  initSequental := 5
  makeUiid := str "dialog"
  resStr := str "0fa3"
  aesKey := { key := str "key", iv := str "iv" }
  rsaEncrypt _ := .ok
  createSign _ _ := .ok (str "c2lnbg==")
  send _ _ _ := .ok ()

def channel : Str := str "mail"

def peer : Contact where
  channelMoniker := channel
  name := str "Peer"
  adress := str "peer@mail"
  id := str "contact"
  publicKey := str "peer key"

/-- The key of a session with its verification string, as a VERIFY_KEY carries it. -/
def keyText : Str := env.aesKey.serialize ++ str "," ++ env.resStr

/-- A signed message of the peer for the one dialog. -/
def incoming (action : Action) (number : BitVec 64) (content : Str) : DialogMessage 64 :=
  .make 0 action content (str "dialog") peer.adress number (str "c2lnbg==")

/-- The peer's message arrives. -/
def receive (action : Action) (number : BitVec 64) (content : Str) : Step 64 :=
  (env, .dispatch (incoming action number content) channel)

/-- The peer becomes a contact with a connected channel. -/
def connect : List (Step 64) := [(env, .saveContact peer), (env, .addChannel channel 60)]

/-- The user asks the peer for a dialog, and the request is acknowledged. -/
def request : List (Step 64) :=
  connect ++ [(env, .createDialog peer), receive .ack 6 []]

/-- The request is answered with a key, the key is verified, and the peer accepts. -/
def established : List (Step 64) :=
  request ++ [receive .verifyKey 1 keyText, receive .ack 7 [], receive .acceptDialog 2 []]

/-- The user sends a text and closes the dialog. -/
def conversation : List (Step 64) :=
  established ++ [(env, .setActiveDialog (str "dialog")), (env, .sendMessage (str "hello")),
    (env, .closeDialog (str "dialog"))]

/-- The one dialog as it is stored. -/
def dialog (status : Status) (peerSequental thisSequental : BitVec 64) : Dialog 64 where
  mDialogId := str "dialog"
  mContactId := peer.id
  mStatus := status
  mPeerSequental := peerSequental
  mThisSequental := thisSequental

/-- The state after some steps of a program that has never run. -/
def run (steps : List (Step 64)) : Core 64 := Run.after (next platform) Core.initial steps

/-- The request leads to WAIT_CONFIRM. -/
example : ((run request).mDialogStorage.find (str "dialog")).map (·.mStatus) =
    some .waitConfirm := by
  decide +kernel

end Sample

end SecureDialogues
