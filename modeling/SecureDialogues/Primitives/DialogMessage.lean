import SecureDialogues.Lib.Text

/-!
# Messages between instances

`messages/src/primitives/dialogmessage.{h,cpp}`. The width `w` of `unsigned long` and `long` is a
parameter: the program is built for 64 and for 32 bits.
-/

namespace SecureDialogues

open Text

/-- `DialogMessage::Action` (`dialogmessage.h:38-48`). -/
inductive Action where
  | message
  | createDialog
  | acceptDialog
  | closeDialog
  | ack
  | abort
  | verifyKey
  | keyVerification
  | contactDiscover
  deriving DecidableEq, Repr

/-- The number of the enumerator, as `static_cast<int>` gives it. -/
def Action.toNat : Action → Nat
  | .message => 0
  | .createDialog => 1
  | .acceptDialog => 2
  | .closeDialog => 3
  | .ack => 4
  | .abort => 5
  | .verifyKey => 6
  | .keyVerification => 7
  | .contactDiscover => 8

/-- `DialogMessage` (`dialogmessage.h:22-105`). The timestamp is a signed `long`, read with
`BitVec.toInt`. -/
structure DialogMessage (w : Nat) where
  mAction : Action
  mContent : Str
  mDialogId : Str
  mAdress : Str
  mSign : Str
  mSequentialNumber : BitVec w
  mTimestamp : BitVec w
  deriving DecidableEq, Repr

/-- `DialogMessage::VERSION`. -/
def DialogMessage.version : Str := str "1.0"

/-- `DialogMessage::setSignature`. -/
def DialogMessage.setSignature {w : Nat} (message : DialogMessage w) (signature : Str) :
    DialogMessage w := { message with mSign := signature }

/-- `DialogMessage::setContent`. -/
def DialogMessage.setContent {w : Nat} (message : DialogMessage w) (content : Str) :
    DialogMessage w := { message with mContent := content }

/-- `std::numeric_limits<unsigned long>::max()`. -/
def maxSequential (w : Nat) : BitVec w := BitVec.allOnes w

section Constructors

variable {w : Nat} (timestamp : BitVec w)

/-- The constructor that stamps the message with the current time
(`dialogmessage.cpp:6-15`). -/
def DialogMessage.make (action : Action) (content dialogId adress : Str) (number : BitVec w)
    (sign : Str) : DialogMessage w where
  mAction := action
  mContent := content
  mDialogId := dialogId
  mAdress := adress
  mSign := sign
  mSequentialNumber := number
  mTimestamp := timestamp

/-- `make_abort` (`dialogmessage.cpp:69-74`). -/
def makeAbort (dialogId contact : Str) (number : BitVec w) : DialogMessage w :=
  .make timestamp .abort [] dialogId contact number []

/-- `make_ack` (`dialogmessage.cpp:76-80`). Its signature field is not empty. -/
def makeAck (mess : DialogMessage w) : DialogMessage w :=
  .make timestamp .ack [] mess.mDialogId mess.mAdress mess.mSequentialNumber (str " ")

end Constructors

end SecureDialogues
