import SecureDialogues.Primitives.Contact
import SecureDialogues.Primitives.Dialog
import SecureDialogues.Lib.Run

/-!
# The list of dialogs

`gui/src/models/dialogs-list/dialoginfo.cpp` and `dialogusermodel.cpp`: the rows from which the user
chooses a dialog, each with the number of its unread messages. The width `w` of `size_t` is a
parameter; in the builds it is that of `unsigned long`.
-/

namespace SecureDialogues

open Text

/-- `DialogInfo` (`dialoginfo.h:11-19`), with times of the system clock. -/
structure DialogInfo (w : Nat) where
  mName : Str
  mAddress : Str
  mMoniker : Str
  mDialogId : Str
  mContactId : Str
  mStatus : Status
  mUnreadMessages : BitVec w
  mLastUpdated : Int
  deriving DecidableEq, Repr

namespace DialogInfo

variable {w : Nat} (now : Int)

/-- The constructor (`dialoginfo.cpp:37-41`). -/
def ofDialog (elem : Dialog w) (contact : Contact) : DialogInfo w where
  mName := contact.name
  mAddress := contact.adress
  mMoniker := contact.channelMoniker
  mDialogId := elem.mDialogId
  mContactId := contact.id
  mStatus := elem.mStatus
  mUnreadMessages := 0
  mLastUpdated := now

/-- `operator=(const DialogInfo&)` (`dialoginfo.cpp:43-53`), which keeps no field of its target. -/
def assign (info : DialogInfo w) : DialogInfo w where
  mAddress := info.mAddress
  mDialogId := info.mDialogId
  mMoniker := info.mMoniker
  mName := info.mName
  mStatus := info.mStatus
  mUnreadMessages := info.mUnreadMessages
  mContactId := info.mContactId
  mLastUpdated := now

variable (this : DialogInfo w)

/-- `operator=(const Dialog&)` (`dialoginfo.cpp:55-61`). -/
def assignDialog (info : Dialog w) : DialogInfo w :=
  { this with
    mStatus := info.mStatus
    mDialogId := info.mDialogId
    mContactId := info.mContactId
    mLastUpdated := now }

/-- `operator=(const Contact&)` (`dialoginfo.cpp:63-69`). -/
def assignContact (info : Contact) : DialogInfo w :=
  { this with
    mAddress := info.adress
    mMoniker := info.channelMoniker
    mName := info.name
    mContactId := info.id }

/-- `messagesReaded` (`dialoginfo.cpp:71-73`). -/
def messagesReaded : DialogInfo w := { this with mUnreadMessages := 0 }

/-- `addUnreadMessage` (`dialoginfo.cpp:75-78`). -/
def addUnreadMessage : DialogInfo w :=
  { this with
    mUnreadMessages := this.mUnreadMessages + 1
    mLastUpdated := now }

end DialogInfo

/-- What `DialogUserModel` emits, to the view and to those who work on the selected dialog. -/
inductive ModelSignal where
  | rowsInserted (row : Nat)
  | dataChanged (row : Nat)
  | modelReset
  | newDialogWasSelected (dialogId : Str)
  | notValidDialogWasSelected (dialogId : Str)
  deriving DecidableEq, Repr

/-- `DialogUserModel` (`dialogusermodel.h:63-66`), with what it has emitted. -/
structure DialogUserModel (w : Nat) where
  mDialogsInfo : List (DialogInfo w)
  activeDialog : Str
  signals : List ModelSignal
  deriving DecidableEq, Repr

namespace DialogUserModel

variable {w : Nat}

/-- The model constructed without dialogs. -/
def empty : DialogUserModel w where
  mDialogsInfo := []
  activeDialog := []
  signals := []

variable (model : DialogUserModel w)

/-- `emit`. -/
def emitted (signal : ModelSignal) : DialogUserModel w :=
  { model with signals := model.signals ++ [signal] }

/-- A row is changed in its place. -/
def modifyRow (row : Nat) (change : DialogInfo w → DialogInfo w) : DialogUserModel w :=
  { model with mDialogsInfo := model.mDialogsInfo.modify row change }

/-- The dialogs of the rows. -/
def ids : List Str := model.mDialogsInfo.map (·.mDialogId)

/-- `rowCount` (`dialogusermodel.cpp:21-23`), with its cast to `int`. -/
def rowCount : Int := (BitVec.ofNat 32 model.mDialogsInfo.length).toInt

/-- `std::find_if` for the row of a dialog; it is the end of the rows if there is none. -/
def rowOf (dialogId : Str) : Nat := model.mDialogsInfo.findIdx fun elem => dialogId = elem.mDialogId

/-- `updateActiveDialog` (`dialogusermodel.cpp:134-141`). -/
def updateActiveDialog (obj : DialogInfo w) : DialogUserModel w :=
  { model with activeDialog := obj.mDialogId }.emitted
    (if obj.mStatus = Status.active then .newDialogWasSelected obj.mDialogId
    else .notValidDialogWasSelected obj.mDialogId)

section

variable (signal : ModelSignal) (obj : DialogInfo w) (row : Nat)
  (change : DialogInfo w → DialogInfo w)

@[simp] theorem emitted_mDialogsInfo :
    (model.emitted signal).mDialogsInfo = model.mDialogsInfo := rfl
@[simp] theorem emitted_activeDialog :
    (model.emitted signal).activeDialog = model.activeDialog := rfl
@[simp] theorem modifyRow_mDialogsInfo :
    (model.modifyRow row change).mDialogsInfo = model.mDialogsInfo.modify row change := rfl
@[simp] theorem modifyRow_activeDialog :
    (model.modifyRow row change).activeDialog = model.activeDialog := rfl
@[simp] theorem updateActiveDialog_mDialogsInfo :
    (model.updateActiveDialog obj).mDialogsInfo = model.mDialogsInfo := rfl
@[simp] theorem updateActiveDialog_activeDialog :
    (model.updateActiveDialog obj).activeDialog = obj.mDialogId := rfl

end

/-- `added(const Dialog&)` (`dialogusermodel.cpp:35-45`), for the contact that
`mContacts->get` returns; it throws if there is none. -/
def added (now : Int) (found : Option Contact) (obj : Dialog w) : DialogUserModel w :=
  match found with
  | none => model
  | some contact =>
    let inserted := { model with
      mDialogsInfo := model.mDialogsInfo ++ [DialogInfo.ofDialog now obj contact] }.emitted
        (.rowsInserted model.mDialogsInfo.length)
    if inserted.rowCount = 1 then inserted.updateActiveDialog (.ofDialog now obj contact)
    else inserted

/-- `changed(const Dialog&)` (`dialogusermodel.cpp:47-62`). -/
def changed (now : Int) (obj : Dialog w) : DialogUserModel w :=
  let row := model.rowOf obj.mDialogId
  match model.mDialogsInfo[row]? with
  | none => model
  | some info =>
    let assigned := (model.modifyRow row fun info => info.assignDialog now obj).emitted
      (.dataChanged row)
    if model.activeDialog = obj.mDialogId then
      (assigned.updateActiveDialog (info.assignDialog now obj)).modifyRow row
        DialogInfo.messagesReaded
    else assigned

/-- `std::vector::erase`: each row from the erased one on is assigned the next one, and the last is
destroyed. The assignments are made one after the other, and `clock k` is what the system clock
shows at the `k`-th of them. -/
def erase (clock : Nat → Int) (rows : List (DialogInfo w)) (row : Nat) : List (DialogInfo w) :=
  rows.take row ++ (rows.drop (row + 1)).mapIdx fun k info => info.assign (clock k)

/-- `removed(const Dialog&)` (`dialogusermodel.cpp:64-86`). -/
def removed (clock : Nat → Int) (obj : Dialog w) : DialogUserModel w :=
  let row := model.rowOf obj.mDialogId
  match model.mDialogsInfo[row]? with
  | none => model
  | some _ =>
    let erased :=
      { model with mDialogsInfo := erase clock model.mDialogsInfo row }.emitted .modelReset
    if model.activeDialog = obj.mDialogId then
      match erased.mDialogsInfo with
      | [] => { erased with activeDialog := [] }.emitted (.notValidDialogWasSelected [])
      | first :: _ => (erased.updateActiveDialog first).modifyRow 0 DialogInfo.messagesReaded
    else erased

/-- `changed(const Contact&)` (`dialogusermodel.cpp:90-98`). -/
def contactChanged (obj : Contact) : DialogUserModel w :=
  { model with
    mDialogsInfo := model.mDialogsInfo.map fun (dialogInfo : DialogInfo w) =>
      if dialogInfo.mContactId = obj.id then dialogInfo.assignContact obj else dialogInfo
  }.emitted .modelReset

/-- `messageAdded` (`dialogusermodel.cpp:102-120`). -/
def messageAdded (now : Int) (dialogId : Str) : DialogUserModel w :=
  if model.activeDialog = dialogId then model
  else
    let row := model.rowOf dialogId
    match model.mDialogsInfo[row]? with
    | none => model
    | some _ => (model.modifyRow row (DialogInfo.addUnreadMessage now)).emitted (.dataChanged row)

/-- The row of an index of the view, if it is one of the model's. -/
def rowAt (index : Int) : Option (DialogInfo w) :=
  if index < 0 ∨ index ≥ model.rowCount then none else model.mDialogsInfo[index.toNat]?

/-- `rowWasSelected` (`dialogusermodel.cpp:143-149`). -/
def rowWasSelected (index : Int) : DialogUserModel w :=
  match model.rowAt index with
  | none => model
  | some info =>
    (model.modifyRow index.toNat DialogInfo.messagesReaded).updateActiveDialog info.messagesReaded

/-- The events that reach the model, with what the system clock shows where a row is stamped. -/
inductive Event (w : Nat) where
  | dialogAdded (now : Int) (found : Option Contact) (obj : Dialog w)
  | dialogChanged (now : Int) (obj : Dialog w)
  | dialogRemoved (clock : Nat → Int) (obj : Dialog w)
  | contactAdded (obj : Contact)
  | contactChanged (obj : Contact)
  | contactRemoved (obj : Contact)
  | messageAdded (now : Int) (dialogId : Str)
  | rowWasSelected (index : Int)

/-- The model after an event. Contacts that come and go change nothing
(`dialogusermodel.cpp:88, 100`). -/
def handle : Event w → DialogUserModel w
  | .dialogAdded now found obj => model.added now found obj
  | .dialogChanged now obj => model.changed now obj
  | .dialogRemoved clock obj => model.removed clock obj
  | .contactAdded _ => model
  | .contactChanged obj => model.contactChanged obj
  | .contactRemoved _ => model
  | .messageAdded now dialogId => model.messageAdded now dialogId
  | .rowWasSelected index => model.rowWasSelected index

end DialogUserModel

end SecureDialogues
