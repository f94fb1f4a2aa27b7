import SecureDialogues.Gui.ActiveDialogMessageModel
import SecureDialogues.Step

/-!
# The log of a dialog

`MessageContainer::list` (`messagecontainer.cpp:123-136`) hands the messages of a dialog to an event
handler. Its guard asks for the entry of the active dialog, and the lookup for that of the dialog.
-/

namespace SecureDialogues.MessageContainer

open Text

/-- What `list` throws if the guard fails. -/
def notContains {w : Nat} (p : Platform w) (dialogId : Str) : Exn where
  kind := .runtimeError
  what := p.text "MessageConteiner not contains dialog id: \x7b\x7d" [dialogId]

/-- `list` (`messagecontainer.cpp:123-136`): the messages that the handler is given to peek at, or
the exception that comes before the first of them. -/
def list {w : Nat} (p : Platform w) (container : MessageContainer) (dialogId : Str) :
    Except Exn (List (Nat × UserMessage)) :=
  if container.mActiveDialog ∈ container.mMessages then
    match container.mMessages[dialogId]? with
    | some messages => .ok messages
    | none => .error { kind := .outOfRange, what := str "map::at" }
  else .error (notContains p dialogId)

/-- An operation of the container, or the new status that a wrapper gives to its message. -/
inductive Change where
  | operation (operation : Operation)
  | updateMessage (dialogId : Str) (number : Nat) (status : UserMessage.Status)
  deriving DecidableEq, Repr

/-- A message as it was added; its status may change. -/
abbrev Added := Nat × UserMessage.Kind × Str

def added (message : Nat × UserMessage) : Added :=
  (message.1, message.2.mType, message.2.mContent)

section

variable (container : MessageContainer)

def change : Change → MessageContainer
  | .operation operation => container.perform operation
  | .updateMessage dialogId number status => container.updateMessage dialogId number status

/-- The dialog and the message, if the operation adds one. -/
def newMessage : Operation → Option (Str × UserMessage)
  | .addText dialogId message isIncome => some (dialogId, textMessage message isIncome)
  | .addMessage dialogId message => some (dialogId, message)
  | .addToActiveDialogWithWrapper message isIncome | .addMessageToActivedialog message isIncome =>
    if container.mActiveDialog ∈ container.mMessages then
      some (container.mActiveDialog, textMessage message isIncome)
    else none
  | .setActiveDialog _ | .removeDialog _ => none

/-- What a change adds to the log of a dialog. -/
def addition (dialogId : Str) : Change → List Added
  | .operation operation =>
    match container.newMessage operation with
    | some (other, message) => if other = dialogId then [added (container.mNext, message)] else []
    | none => []
  | .updateMessage _ _ _ => []

end

/-- The messages that have been added to a dialog since its entry was last created: the log begins
anew with a change that finds no entry. -/
def addedSince (dialogId : Str) : MessageContainer → List Added → List Change → List Added
  | _, log, [] => log
  | container, log, change :: rest =>
    let kept := if dialogId ∈ container.mMessages then log else []
    addedSince dialogId (container.change change) (kept ++ container.addition dialogId change) rest

/-- `list` throws the container's exception exactly for a dialog without an entry, and gives the log
of any other. -/
def ListsLog {w : Nat} (p : Platform w) (container : MessageContainer) (dialogId : Str)
    (log : List Added) : Prop :=
  (container.list p dialogId = .error (notContains p dialogId) ↔
    dialogId ∉ container.mMessages) ∧
  (dialogId ∈ container.mMessages →
    ∃ messages, container.list p dialogId = .ok messages ∧ messages.map added = log)

/-! ## The entry of a dialog -/

/-- The entry of the dialog holds the log. -/
def Holds (container : MessageContainer) (dialogId : Str) (log : List Added) : Prop :=
  ∀ messages, container.mMessages[dialogId]? = some messages → messages.map added = log

section

variable {container : MessageContainer} {dialogId : Str} {log : List Added}

/-- The log of an entry that is there, and the empty one of an entry that is created. -/
theorem Holds.getD (holds : container.Holds dialogId log) :
    ((container.mMessages[dialogId]?).getD []).map added =
      if dialogId ∈ container.mMessages then log else [] := by
  cases found : container.mMessages[dialogId]? with
  | none =>
    rw [if_neg (by rw [Std.ExtTreeMap.mem_iff_isSome_getElem?, found]; simp)]
    rfl
  | some messages =>
    rw [if_pos (by rw [Std.ExtTreeMap.mem_iff_isSome_getElem?, found]; rfl)]
    exact holds messages found

theorem Holds.kept (holds : container.Holds dialogId log) :
    container.Holds dialogId (if dialogId ∈ container.mMessages then log else []) := by
  intro messages found
  rw [← holds.getD, found]
  rfl

/-- Other dialogs keep their entries. -/
theorem Holds.of_same {changed : MessageContainer} (holds : container.Holds dialogId log)
    (same : changed.mMessages[dialogId]? = container.mMessages[dialogId]?) :
    changed.Holds dialogId log := by
  intro messages found
  rw [same] at found
  exact holds messages found

theorem Holds.addMessage (holds : container.Holds dialogId log) (other : Str)
    (message : UserMessage) :
    (container.addMessage other message).Holds dialogId
      ((if dialogId ∈ container.mMessages then log else []) ++
        if other = dialogId then [added (container.mNext, message)] else []) := by
  by_cases same : other = dialogId
  · rw [if_pos same]
    intro messages found
    rw [MessageContainer.addMessage, getElem?_insert, if_pos same, same] at found
    cases found
    rw [List.map_append, holds.getD]
    rfl
  · rw [if_neg same, List.append_nil]
    apply holds.kept.of_same
    rw [MessageContainer.addMessage, getElem?_insert, if_neg same]

/-- The selection of a dialog may create its entry, which is then empty. -/
theorem Holds.setActiveDialog (holds : container.Holds dialogId log) (other : Str) :
    (container.setActiveDialog other).Holds dialogId
      (if dialogId ∈ container.mMessages then log else []) := by
  unfold MessageContainer.setActiveDialog
  split
  · exact holds.kept
  split
  · intro messages found
    simp only [notifyPeekAllMessagesFromActive, notify, getElem?_insertIfNew] at found
    split at found
    · rename_i created
      cases found
      rw [← holds.getD, ← created.1, created.2]
      rfl
    · exact holds.kept messages found
  · exact holds.kept

theorem removeDialog_mMessages (container : MessageContainer) (other : Str) :
    (container.removeDialog other).mMessages = container.mMessages.erase other := by
  simp only [MessageContainer.removeDialog]
  split
  · split <;> rfl
  · rfl

theorem Holds.removeDialog (holds : container.Holds dialogId log) (other : Str) :
    (container.removeDialog other).Holds dialogId
      (if dialogId ∈ container.mMessages then log else []) := by
  intro messages found
  rw [removeDialog_mMessages, getElem?_erase] at found
  split at found
  · cases found
  · exact holds.kept messages found

/-- A new status is no new message. -/
theorem Holds.updateMessage (holds : container.Holds dialogId log) (other : Str) (number : Nat)
    (status : UserMessage.Status) :
    (container.updateMessage other number status).Holds dialogId
      (if dialogId ∈ container.mMessages then log else []) := by
  unfold MessageContainer.updateMessage
  split
  · exact holds.kept
  · rename_i before stored
    intro messages found
    rw [getElem?_insert] at found
    split at found
    · rename_i same
      cases found
      rw [same] at stored
      rw [← holds.kept before stored, List.map_map]
      apply List.map_congr_left
      intro message _
      simp only [Function.comp_apply]
      split
      · rename_i updated
        rw [added, added, updated]
        rfl
      · rfl
    · exact holds.kept messages found

/-- What a change does to the entry of a dialog. -/
theorem Holds.change (holds : container.Holds dialogId log) (change : Change) :
    (container.change change).Holds dialogId
      ((if dialogId ∈ container.mMessages then log else []) ++
        container.addition dialogId change) := by
  cases change with
  | updateMessage other number status =>
    rw [addition, List.append_nil]
    exact holds.updateMessage other number status
  | operation operation =>
    cases operation with
    | setActiveDialog other =>
      rw [addition, newMessage, List.append_nil]
      exact holds.setActiveDialog other
    | addText other message isIncome => exact holds.addMessage other _
    | addMessage other message => exact holds.addMessage other message
    | addToActiveDialogWithWrapper message isIncome =>
      rw [MessageContainer.change, perform_addToActiveDialogWithWrapper, addition, newMessage]
      split
      · exact holds.addMessage _ _
      · rw [List.append_nil]
        exact holds.kept
    | addMessageToActivedialog message isIncome =>
      rw [MessageContainer.change, perform_addMessageToActivedialog, addition, newMessage]
      split
      · exact holds.addMessage _ _
      · rw [List.append_nil]
        exact holds.kept
    | removeDialog other =>
      rw [addition, newMessage, List.append_nil]
      exact holds.removeDialog other

/-- The entry of a dialog always holds its log. -/
theorem Holds.after (holds : container.Holds dialogId log) (changes : List Change) :
    (Run.after MessageContainer.change container changes).Holds dialogId
      (addedSince dialogId container log changes) := by
  induction changes generalizing container log with
  | nil => exact holds
  | cons change rest ih => exact ih (holds.change change)

/-- The guard and the lookup of `list` agree exactly if the active dialog has an entry whenever the
dialog has one, and none whenever it has none. -/
theorem Holds.listsLog_iff {w : Nat} (p : Platform w) (holds : container.Holds dialogId log) :
    ListsLog p container dialogId log ↔
      (container.mActiveDialog ∈ container.mMessages ↔ dialogId ∈ container.mMessages) := by
  unfold ListsLog MessageContainer.list
  by_cases active : container.mActiveDialog ∈ container.mMessages
  · rw [if_pos active]
    cases found : container.mMessages[dialogId]? with
    | none =>
      have absent : dialogId ∉ container.mMessages := by
        rw [Std.ExtTreeMap.mem_iff_isSome_getElem?, found]
        simp
      simp [active, absent, notContains]
    | some messages =>
      have entry : dialogId ∈ container.mMessages := by
        rw [Std.ExtTreeMap.mem_iff_isSome_getElem?, found]
        rfl
      simp [active, entry, holds messages found]
  · rw [if_neg active]
    by_cases entry : dialogId ∈ container.mMessages
    · simp [active, entry]
    · simp [active, entry]

end

/-! ## Runs -/

/-- After any sequence of changes `list` gives a dialog's log, and its own exception for a dialog
without an entry, exactly if the active dialog and the dialog both have an entry or both have
none. -/
theorem list_gives_log_iff {w : Nat} (p : Platform w) (changes : List Change) (dialogId : Str) :
    ListsLog p (Run.after change empty changes) dialogId
        (addedSince dialogId empty [] changes) ↔
      ((Run.after change empty changes).mActiveDialog ∈ (Run.after change empty changes).mMessages ↔
        dialogId ∈ (Run.after change empty changes).mMessages) := by
  have start : empty.Holds dialogId [] := by
    intro messages found
    simp [empty] at found
  exact (start.after changes).listsLog_iff p

/-- A text has come for a dialog, and none is selected: `list` says that the dialog is not there. -/
theorem unselected_log_not_listed :
    ¬ ∀ (changes : List Change) (dialogId : Str),
      ListsLog Sample.platform (Run.after change empty changes) dialogId
        (addedSince dialogId empty [] changes) := by
  intro lists
  have incoming := lists [.operation (.addText (str "d") (str "hello") true)] (str "d")
  exact incoming.1.mp (by decide +kernel) (by decide +kernel)

end SecureDialogues.MessageContainer
