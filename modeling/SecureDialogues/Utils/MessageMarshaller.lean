import SecureDialogues.Primitives.DialogMessage

/-!
# The wire text of a message

`messages/src/utils/messagemarshaller.cpp`. A message is printed as seven header lines, the body
delimiter and the content; it is read back line by line with `prepareLine`, whose implicit state
is `MessageFields::State`.
-/

namespace SecureDialogues

open Text

/-! ## The words of the format (`messagemarshaller.cpp:9-28`) -/

def header : Str := str "SECURE DIALOG MESSAGE"
def fieldVersion : Str := str "VERSION"
def fieldAction : Str := str "ACTION"
def fieldSequentalNumber : Str := str "SEQUENTAL_NUMBER"
def fieldDialogId : Str := str "DIALOG"
def fieldTimestamp : Str := str "TIMESTAMP"
def fieldSign : Str := str "SIGNATURE"
def bodyDelitimer : Str :=
  str "--------------------------------------------------------------"

/-- The character `:` between a field's name and its value. -/
abbrev colon : UInt8 := 58

/-- `convertAction(DialogMessage::Action)` (`messagemarshaller.cpp:163-186`). -/
def actionText : Action → Str
  | .acceptDialog => str "ACCEPT_DIALOG"
  | .closeDialog => str "CLOSE_DIALOG"
  | .createDialog => str "CREATE_DIALOG"
  | .message => str "MESSAGE"
  | .ack => str "ACK"
  | .abort => str "ABORT"
  | .keyVerification => str "KEY_VERIFICATION"
  | .verifyKey => str "VERIFY_KEY"
  | .contactDiscover => str "CONTACT_DISCOVER"

/-- The exceptions that `prepareLine` can throw. -/
inductive MarshallError where
  | badAction (action : Str)
  | badNumber (error : NumberError)
  deriving DecidableEq, Repr

/-- `convertAction(const std::string&)` (`messagemarshaller.cpp:138-161`). -/
def convertAction (action : Str) : Except MarshallError Action :=
  if action = actionText .acceptDialog then .ok .acceptDialog
  else if action = actionText .closeDialog then .ok .closeDialog
  else if action = actionText .createDialog then .ok .createDialog
  else if action = actionText .message then .ok .message
  else if action = actionText .ack then .ok .ack
  else if action = actionText .abort then .ok .abort
  else if action = actionText .keyVerification then .ok .keyVerification
  else if action = actionText .verifyKey then .ok .verifyKey
  else if action = actionText .contactDiscover then .ok .contactDiscover
  else .error (.badAction action)

/-- `splitKeyVal` (`messagemarshaller.cpp:122-136`): the text before and after the first `ch`,
both of which have to be there. -/
def splitKeyVal (source : Str) (ch : UInt8) : Option (Str × Str) :=
  let key := source.takeWhile (· ≠ ch)
  match source.drop key.length with
  | [] => none
  | _ :: val => if val = [] ∨ key = [] then none else some (key, val)

/-- `MessageFields::State`. -/
inductive FieldsState where
  | header
  | signature
  | body
  deriving DecidableEq, Repr

/-- `MessageFields` (`messagemarshaller.cpp:30-41`). -/
structure MessageFields (w : Nat) where
  mAction : Action
  mContent : Str
  mDialogId : Str
  mSeqNumber : BitVec w
  signature : Str
  state : FieldsState
  timestamp : BitVec w
  deriving DecidableEq, Repr

/-- The fields before the first line. `mAction` and `timestamp` have no initialiser in the
source, so they hold what the stack held. -/
def MessageFields.init {w : Nat} (stack : Action × BitVec w) : MessageFields w where
  mAction := stack.1
  mContent := []
  mDialogId := []
  mSeqNumber := 0
  signature := []
  state := .header
  timestamp := stack.2

section

variable {w : Nat}

/-- The part of `prepareLine` that no numbered header line took
(`messagemarshaller.cpp:218-228`). -/
def prepareTextLine (line : Str) (lineNumber : Nat) (fields : MessageFields w) :
    Option (MessageFields w) :=
  if lineNumber ≥ 8 ∧ line = bodyDelitimer then some { fields with state := .body }
  else if fields.state = .signature then
    some { fields with signature := fields.signature ++ newline :: line }
  else if fields.state = .body then
    some { fields with mContent := fields.mContent ++ (line ++ [newline]) }
  else none

/-- The value of a header line that carries the field `name`, the common condition of the
branches for lines 2 to 7. -/
def fieldValue (line name : Str) : Option Str :=
  match splitKeyVal line colon with
  | some (key, val) => if key = name then some val else none
  | none => none

/-- `prepareLine` (`messagemarshaller.cpp:188-229`); `none` is the result `false`. The line
counter is an `int` in the source and a `Nat` here. -/
def prepareLine (line : Str) (lineNumber : Nat) (fields : MessageFields w) :
    Except MarshallError (Option (MessageFields w)) :=
  match lineNumber with
  | 1 =>
    if line = header then .ok (some fields) else .ok (prepareTextLine line 1 fields)
  | 2 =>
    match fieldValue line fieldVersion with
    | some val =>
      if val = DialogMessage.version then .ok (some fields)
      else .ok (prepareTextLine line 2 fields)
    | none => .ok (prepareTextLine line 2 fields)
  | 3 =>
    match fieldValue line fieldAction with
    | some val =>
      match convertAction val with
      | .ok action => .ok (some { fields with mAction := action })
      | .error e => .error e
    | none => .ok (prepareTextLine line 3 fields)
  | 4 =>
    match fieldValue line fieldSequentalNumber with
    | some val =>
      match stoul w val with
      | .ok number => .ok (some { fields with mSeqNumber := number })
      | .error e => .error (.badNumber e)
    | none => .ok (prepareTextLine line 4 fields)
  | 5 =>
    match fieldValue line fieldDialogId with
    | some val => .ok (some { fields with mDialogId := val })
    | none => .ok (prepareTextLine line 5 fields)
  | 6 =>
    match fieldValue line fieldTimestamp with
    | some val =>
      match stol w val with
      | .ok number => .ok (some { fields with timestamp := number })
      | .error e => .error (.badNumber e)
    | none => .ok (prepareTextLine line 6 fields)
  | 7 =>
    match fieldValue line fieldSign with
    | some val => .ok (some { fields with signature := val, state := .signature })
    | none => .ok (prepareTextLine line 7 fields)
  | n => .ok (prepareTextLine line n fields)

/-- The loop of `unmarshall` over the remaining lines; it ends with `none` when `prepareLine`
returns false or throws. -/
def prepareLines : List Str → Nat → MessageFields w → Option (MessageFields w)
  | [], _, fields => some fields
  | line :: rest, lineNumber, fields =>
    match prepareLine line lineNumber fields with
    | .ok (some fields) => prepareLines rest (lineNumber + 1) fields
    | .ok none => none
    | .error _ => none

/-- `for (auto it = content.rbegin(); std::isspace(*it) && it != content.rend(); ++it)
*it = 0x00;` with `n` characters left in front of `it`. At `rend()` the source reads one
character before the string; whatever it reads, the loop ends there. -/
def blankTrailing : Nat → Str → Str
  | 0, content => content
  | n + 1, content =>
    if isspace (content.getD n 0) then blankTrailing n (content.set n 0) else content

/-- The content as `c_str()` shows it after the trimming loop. -/
def trimmed (content : Str) : Str := cstr (blankTrailing content.length content)

/-- `MessageMarshaller::unmarshall` (`messagemarshaller.cpp:50-79`). -/
def unmarshall (stack : Action × BitVec w) (message address : Str) : Option (DialogMessage w) :=
  match prepareLines (getlines message) 1 (MessageFields.init stack) with
  | none => none
  | some fields => some {
      mAction := fields.mAction
      mContent := trimmed fields.mContent
      mDialogId := fields.mDialogId
      mAdress := address
      mSign := fields.signature
      mSequentialNumber := fields.mSeqNumber
      mTimestamp := fields.timestamp }

/-- The common text of `marshall` and `marshallExceptSignature`, which differ in what they print
after `SIGNATURE:`. -/
def printMessage (message : DialogMessage w) (sign : Str) : Str :=
  header ++ newline ::
  (fieldVersion ++ colon :: DialogMessage.version) ++ newline ::
  (fieldAction ++ colon :: actionText message.mAction) ++ newline ::
  (fieldSequentalNumber ++ colon :: printNat message.mSequentialNumber.toNat) ++ newline ::
  (fieldDialogId ++ colon :: message.mDialogId) ++ newline ::
  (fieldTimestamp ++ colon :: printInt message.mTimestamp.toInt) ++ newline ::
  (fieldSign ++ colon :: sign) ++ newline ::
  bodyDelitimer ++ newline ::
  trimmed message.mContent

/-- `MessageMarshaller::marshall` (`messagemarshaller.cpp:81-99`). -/
def marshall (message : DialogMessage w) : Str := printMessage message message.mSign

/-- `MessageMarshaller::marshallExceptSignature` (`messagemarshaller.cpp:101-120`). -/
def marshallExceptSignature (message : DialogMessage w) : Str := printMessage message []

end

end SecureDialogues
