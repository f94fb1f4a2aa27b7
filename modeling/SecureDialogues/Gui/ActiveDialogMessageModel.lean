import SecureDialogues.Containers.MessageContainer
import SecureDialogues.Lib.Run

/-!
# The view of the active dialog

`gui/src/models/active-dialog-messages/activedialogmessagemodel.cpp`: the list of messages that is
on the screen, kept by nothing but the notices of the message container. It is registered before
the first operation (`guiinitializer.cpp:86-88`).
-/

namespace SecureDialogues

open Text

/-- `ActiveDialogMessageModel` (`activedialogmessagemodel.h:37-40`). -/
structure ActiveDialogMessageModel where
  mRows : List UserMessage
  mActiveDialog : Str
  deriving DecidableEq, Repr

namespace ActiveDialogMessageModel

/-- The model after its construction. -/
def empty : ActiveDialogMessageModel where
  mRows := []
  mActiveDialog := []

variable (model : ActiveDialogMessageModel)

/-- `peekMessage` (`activedialogmessagemodel.cpp:48-55`). -/
def peekMessage (message : UserMessage) : ActiveDialogMessageModel :=
  { model with mRows := model.mRows ++ [message] }

/-- `messageAdded` (`activedialogmessagemodel.cpp:27-37`). -/
def messageAdded (dialogId : Str) (message : UserMessage) : ActiveDialogMessageModel :=
  if model.mActiveDialog = dialogId then { model with mRows := model.mRows ++ [message] }
  else model

/-- `activeDialogChanged` (`activedialogmessagemodel.cpp:39-46`). -/
def activeDialogChanged (newActiveDialogId : Str) : ActiveDialogMessageModel where
  mRows := []
  mActiveDialog := newActiveDialogId

/-- The model as one of the container's event handlers. `invalidateData` repaints the rows
(`activedialogmessagemodel.cpp:57-63`). -/
def handle : ContainerNotice → ActiveDialogMessageModel
  | .activeDialogChanged dialogId => activeDialogChanged dialogId
  | .peekMessage message => model.peekMessage message
  | .messageAdded dialogId message => model.messageAdded dialogId message
  | .invalidateData _ => model

/-- The model after all that it has been told. -/
def told (notices : List ContainerNotice) : ActiveDialogMessageModel := notices.foldl handle empty

theorem told_append (before notices : List ContainerNotice) :
    told (before ++ notices) = notices.foldl handle (told before) :=
  List.foldl_append

/-- Messages that are peeked at go to the end of the rows. -/
theorem foldl_peekMessage (messages : List UserMessage) :
    (messages.map ContainerNotice.peekMessage).foldl handle model =
      { model with mRows := model.mRows ++ messages } := by
  induction messages generalizing model with
  | nil => simp
  | cons message rest ih =>
    rw [List.map_cons, List.foldl_cons, ih]
    simp [handle, peekMessage]

/-- A selection that is announced, followed by its messages. -/
theorem told_activeDialogChanged (before : List ContainerNotice) (dialogId : Str)
    (messages : List UserMessage) :
    told (before ++ [.activeDialogChanged dialogId] ++ messages.map .peekMessage) =
      { mRows := messages, mActiveDialog := dialogId } := by
  rw [told_append, told_append, foldl_peekMessage]
  rfl

theorem told_messageAdded (before : List ContainerNotice) (dialogId : Str)
    (message : UserMessage) :
    told (before ++ [.messageAdded dialogId message]) =
      (told before).messageAdded dialogId message :=
  told_append _ _

end ActiveDialogMessageModel

namespace MessageContainer

/-- The operations of a container that select a dialog or change what it holds. -/
inductive Operation where
  | setActiveDialog (dialogId : Str)
  | addText (dialogId message : Str) (isIncome : Bool)
  | addMessage (dialogId : Str) (message : UserMessage)
  | addToActiveDialogWithWrapper (message : Str) (isIncome : Bool)
  | addMessageToActivedialog (message : Str) (isIncome : Bool)
  | removeDialog (dialogId : Str)
  deriving DecidableEq, Repr

/-- The container after an operation; one that throws has not changed it. -/
def perform (container : MessageContainer) : Operation → MessageContainer
  | .setActiveDialog dialogId => container.setActiveDialog dialogId
  | .addText dialogId message isIncome => container.addText dialogId message isIncome
  | .addMessage dialogId message => container.addMessage dialogId message
  | .addToActiveDialogWithWrapper message isIncome =>
    match container.addToActiveDialogWithWrapper message isIncome with
    | some (changed, _) => changed
    | none => container
  | .addMessageToActivedialog message isIncome =>
    (container.addMessageToActivedialog message isIncome).getD container
  | .removeDialog dialogId => container.removeDialog dialogId

variable (container : MessageContainer)

/-- The messages to be shown: those of the active dialog, if there is one. -/
def activeMessages : List UserMessage :=
  if container.mActiveDialog = [] then [] else container.messagesOf container.mActiveDialog

/-- The registered model. -/
def view : ActiveDialogMessageModel := .told container.notices

/-- The registered model shows the active dialog. -/
def IsMirrored : Prop :=
  container.view = { mRows := container.activeMessages, mActiveDialog := container.mActiveDialog }

instance : Decidable container.IsMirrored := inferInstanceAs (Decidable (_ = _))

/-- What keeps the model in step. The selection is not cleared, for which there is no notice: not
by `setActiveDialog`, and not by the removal of the active dialog when it is the last one. And no
message comes under the empty identifier when that is the selection. -/
def KeepsInStep : Operation → Prop
  | .setActiveDialog dialogId => dialogId = [] → container.mActiveDialog = []
  | .addText dialogId _ _ | .addMessage dialogId _ =>
    dialogId = [] → container.mActiveDialog ≠ []
  | .addToActiveDialogWithWrapper _ _ | .addMessageToActivedialog _ _ =>
    container.mActiveDialog = [] → [] ∉ container.mMessages
  | .removeDialog dialogId =>
    dialogId = container.mActiveDialog → dialogId ≠ [] →
      (∃ other ∈ container.mMessages, other ≠ dialogId) ∧ [] ∉ container.mMessages

/-- Messages under the empty identifier are only there because they were added. -/
def IsFilled : Prop := [] ∈ container.mMessages → container.messagesOf [] ≠ []

/-! ## The notices of each operation -/

variable {container}

@[simp] theorem isMirrored_empty : empty.IsMirrored := rfl

@[simp] theorem isFilled_empty : empty.IsFilled := by
  intro member
  simp [empty] at member

/-- A selection that is announced together with its messages is mirrored, unless messages stand
under the empty identifier. -/
theorem isMirrored_announced (container : MessageContainer) :
    ((container.notify [.activeDialogChanged container.mActiveDialog])
      |>.notifyPeekAllMessagesFromActive).IsMirrored ↔
      (container.mActiveDialog = [] → container.messagesOf [] = []) := by
  have shown : ((container.notify [.activeDialogChanged container.mActiveDialog])
      |>.notifyPeekAllMessagesFromActive).view =
      { mRows := container.messagesOf container.mActiveDialog
        mActiveDialog := container.mActiveDialog } :=
    ActiveDialogMessageModel.told_activeDialogChanged _ _ _
  rw [IsMirrored, shown]
  show ActiveDialogMessageModel.mk _ container.mActiveDialog =
    { mRows := container.activeMessages, mActiveDialog := container.mActiveDialog } ↔ _
  rw [activeMessages]
  by_cases none : container.mActiveDialog = []
  · simp [none]
  · simp [none]

/-- The same selection without a notice is mirrored only if nothing was selected. -/
theorem isMirrored_cleared (mirrored : container.IsMirrored) (changed : MessageContainer)
    (cleared : changed.mActiveDialog = []) (untold : changed.notices = container.notices) :
    changed.IsMirrored ↔ container.mActiveDialog = [] := by
  have shown : changed.view =
      { mRows := container.activeMessages, mActiveDialog := container.mActiveDialog } := by
    rw [view, untold]
    exact mirrored
  rw [IsMirrored, shown, activeMessages, activeMessages, cleared]
  constructor
  · intro same
    exact congrArg ActiveDialogMessageModel.mActiveDialog same
  · intro none
    simp [none]

/-- A new message is shown if it belongs to the selection, and must not be shown if there is
none. -/
theorem isMirrored_addMessage (mirrored : container.IsMirrored) (dialogId : Str)
    (message : UserMessage) :
    (container.addMessage dialogId message).IsMirrored ↔
      (dialogId = [] → container.mActiveDialog ≠ []) := by
  have shown : (container.addMessage dialogId message).view =
      container.view.messageAdded dialogId message :=
    ActiveDialogMessageModel.told_messageAdded _ _ _
  rw [IsMirrored, shown, mirrored, ActiveDialogMessageModel.messageAdded, activeMessages,
    activeMessages, messagesOf_addMessage, addMessage_mActiveDialog]
  by_cases none : container.mActiveDialog = []
  · by_cases empty : dialogId = []
    · simp [none, empty]
    · have other : ¬ [] = dialogId := fun same => empty same.symm
      simp [none, empty, other]
  · by_cases active : container.mActiveDialog = dialogId
    · simp [← active, none]
    · simp [none, active, Ne.symm active]

theorem isMirrored_setActiveDialog (mirrored : container.IsMirrored) (dialogId : Str) :
    (container.setActiveDialog dialogId).IsMirrored ↔
      (dialogId = [] → container.mActiveDialog = []) := by
  unfold setActiveDialog
  split
  · rename_i empty
    rw [isMirrored_cleared mirrored { container with mActiveDialog := [] } rfl rfl]
    simp [empty]
  · rename_i named
    split
    · rw [isMirrored_announced { container with
        mActiveDialog := dialogId
        mMessages := container.mMessages.insertIfNew dialogId [] }]
      simp [named]
    · simp [named, mirrored]

/-- The text of an operation on the active dialog goes to that dialog, if it has an entry. -/
theorem isMirrored_addToActive (mirrored : container.IsMirrored) (message : UserMessage) :
    (if container.mActiveDialog ∈ container.mMessages then
      container.addMessage container.mActiveDialog message
    else container).IsMirrored ↔ (container.mActiveDialog = [] → [] ∉ container.mMessages) := by
  split
  · rename_i entry
    rw [isMirrored_addMessage mirrored]
    constructor
    · intro named empty
      exact absurd empty (named empty)
    · intro absent empty
      rw [empty] at entry
      exact absurd entry (absent empty)
  · rename_i missing
    simp only [mirrored, true_iff]
    intro empty
    rw [empty] at missing
    exact missing

theorem messagesOf_erase (mActiveDialog removed : Str) {dialogId : Str}
    (other : removed ≠ dialogId) :
    messagesOf { container with
        mActiveDialog := mActiveDialog
        mMessages := container.mMessages.erase removed } dialogId =
      container.messagesOf dialogId := by
  simp only [messagesOf, getElem?_erase, if_neg other]

/-- The first dialog of those that are left is the empty identifier exactly if that one is
left. -/
theorem minKey?_erase_eq_nil {removed first : Str}
    (least : (container.mMessages.erase removed).minKey? = some first) :
    first = [] ↔ removed ≠ [] ∧ [] ∈ container.mMessages := by
  constructor
  · rintro rfl
    have member : [] ∈ container.mMessages.erase removed := Std.ExtTreeMap.minKey?_mem least
    rw [Std.ExtTreeMap.mem_erase] at member
    simpa using member
  · rintro ⟨named, member⟩
    have left : [] ∈ container.mMessages.erase removed := by
      rw [Std.ExtTreeMap.mem_erase]
      exact ⟨by simpa using named, member⟩
    have le : (compare first []).isLE := by
      apply Std.ExtTreeMap.minKey?_le_of_mem left
      simp only [least, Option.get_some]
    cases first with
    | nil => rfl
    | cons c rest => cases le

/-- After the removal of the active dialog the first of the others is announced. Nothing is, if
there is none. -/
theorem isMirrored_removeDialog (mirrored : container.IsMirrored) (filled : container.IsFilled)
    (dialogId : Str) :
    (container.removeDialog dialogId).IsMirrored ↔
      (dialogId = container.mActiveDialog → dialogId ≠ [] →
        (∃ other ∈ container.mMessages, other ≠ dialogId) ∧ [] ∉ container.mMessages) := by
  simp only [removeDialog]
  split
  · rename_i active
    split
    · rename_i last
      rw [isMirrored_cleared mirrored { container with
        mActiveDialog := []
        mMessages := container.mMessages.erase dialogId } rfl rfl, ← active]
      have single : ∀ other ∈ container.mMessages, other = dialogId := by
        intro other member
        by_contra different
        have left : other ∈ container.mMessages.erase dialogId := by
          rw [Std.ExtTreeMap.mem_erase]
          exact ⟨by simpa using Ne.symm different, member⟩
        rw [Std.ExtTreeMap.minKey?_eq_none_iff.mp last] at left
        simp at left
      constructor
      · intro none _ named
        exact absurd none named
      · intro kept
        by_contra named
        obtain ⟨⟨other, member, different⟩, _⟩ := kept rfl named
        exact different (single other member)
    · rename_i first least
      rw [isMirrored_announced { container with
        mActiveDialog := first
        mMessages := container.mMessages.erase dialogId }]
      have first_nil := minKey?_erase_eq_nil least
      have different : dialogId ≠ first := by
        rintro rfl
        have member := Std.ExtTreeMap.minKey?_mem least
        simp at member
      constructor
      · intro unfilled _ named
        refine ⟨⟨first, ?_, different.symm⟩, ?_⟩
        · have member := Std.ExtTreeMap.minKey?_mem least
          rw [Std.ExtTreeMap.mem_erase] at member
          exact member.2
        · intro member
          have none := unfilled (first_nil.mpr ⟨named, member⟩)
          rw [messagesOf_erase first dialogId named] at none
          exact filled member none
      · intro kept none
        obtain ⟨named, member⟩ := first_nil.mp none
        exact absurd member (kept active named).2
  · rename_i other
    simp only [other, false_implies, iff_true]
    have shown : activeMessages { container with mMessages := container.mMessages.erase dialogId } =
        container.activeMessages := by
      simp only [activeMessages, messagesOf_erase container.mActiveDialog dialogId other]
    rw [IsMirrored, shown]
    exact mirrored

theorem perform_addToActiveDialogWithWrapper (message : Str) (isIncome : Bool) :
    container.perform (.addToActiveDialogWithWrapper message isIncome) =
      if container.mActiveDialog ∈ container.mMessages then
        container.addMessage container.mActiveDialog (textMessage message isIncome)
      else container := by
  simp only [perform, addToActiveDialogWithWrapper, addText]
  by_cases entry : container.mActiveDialog ∈ container.mMessages
  · simp only [if_pos entry]
  · simp only [if_neg entry]

theorem perform_addMessageToActivedialog (message : Str) (isIncome : Bool) :
    container.perform (.addMessageToActivedialog message isIncome) =
      if container.mActiveDialog ∈ container.mMessages then
        container.addMessage container.mActiveDialog (textMessage message isIncome)
      else container := by
  simp only [perform, addMessageToActivedialog, addText]
  by_cases entry : container.mActiveDialog ∈ container.mMessages
  · simp only [if_pos entry, Option.getD_some]
  · simp only [if_neg entry, Option.getD_none]

/-- A model in step stays so exactly if the operation meets the condition. -/
theorem isMirrored_perform (filled : container.IsFilled) (mirrored : container.IsMirrored)
    (operation : Operation) :
    (container.perform operation).IsMirrored ↔ container.KeepsInStep operation := by
  cases operation with
  | setActiveDialog dialogId => exact isMirrored_setActiveDialog mirrored dialogId
  | addText dialogId message isIncome => exact isMirrored_addMessage mirrored dialogId _
  | addMessage dialogId message => exact isMirrored_addMessage mirrored dialogId message
  | addToActiveDialogWithWrapper message isIncome =>
    rw [perform_addToActiveDialogWithWrapper]
    exact isMirrored_addToActive mirrored _
  | addMessageToActivedialog message isIncome =>
    rw [perform_addMessageToActivedialog]
    exact isMirrored_addToActive mirrored _
  | removeDialog dialogId => exact isMirrored_removeDialog mirrored filled dialogId

/-! ## Runs -/

theorem isFilled_addMessage (filled : container.IsFilled) (dialogId : Str)
    (message : UserMessage) : (container.addMessage dialogId message).IsFilled := by
  intro member
  rw [messagesOf_addMessage]
  by_cases empty : dialogId = []
  · simp [empty]
  · have before : [] ∈ container.mMessages := by
      simp only [addMessage, Std.ExtTreeMap.mem_insert] at member
      simpa [empty] using member
    simp [filled before]

/-- An opened dialog has an identifier, and a dialog that is removed is another one. -/
theorem isFilled_setActiveDialog (filled : container.IsFilled) (dialogId : Str) :
    (container.setActiveDialog dialogId).IsFilled := by
  unfold setActiveDialog
  split
  · exact filled
  · rename_i named
    split
    · intro member
      simp only [notifyPeekAllMessagesFromActive, notify, Std.ExtTreeMap.mem_insertIfNew] at member
      have before : [] ∈ container.mMessages := by simpa [named] using member
      show messagesOf _ [] ≠ []
      simp only [notifyPeekAllMessagesFromActive, notify, messagesOf, getElem?_insertIfNew, named,
        false_and, if_false]
      exact filled before
    · exact filled

theorem isFilled_removeDialog (filled : container.IsFilled) (dialogId : Str) :
    (container.removeDialog dialogId).IsFilled := by
  have erased : ∀ mActiveDialog : Str, IsFilled { container with
      mActiveDialog := mActiveDialog
      mMessages := container.mMessages.erase dialogId } := by
    intro mActiveDialog member
    rw [Std.ExtTreeMap.mem_erase] at member
    have named : dialogId ≠ [] := by simpa using member.1
    rw [messagesOf_erase mActiveDialog dialogId named]
    exact filled member.2
  simp only [removeDialog]
  split
  · split
    · exact erased []
    · rename_i first least
      exact erased first
  · exact erased container.mActiveDialog

/-- Only a message brings an entry for the empty identifier. -/
theorem isFilled_perform (filled : container.IsFilled) (operation : Operation) :
    (container.perform operation).IsFilled := by
  cases operation with
  | setActiveDialog dialogId => exact isFilled_setActiveDialog filled dialogId
  | addText dialogId message isIncome => exact isFilled_addMessage filled dialogId _
  | addMessage dialogId message => exact isFilled_addMessage filled dialogId message
  | addToActiveDialogWithWrapper message isIncome =>
    rw [perform_addToActiveDialogWithWrapper]
    split
    · exact isFilled_addMessage filled _ _
    · exact filled
  | addMessageToActivedialog message isIncome =>
    rw [perform_addMessageToActivedialog]
    split
    · exact isFilled_addMessage filled _ _
    · exact filled
  | removeDialog dialogId => exact isFilled_removeDialog filled dialogId

/-- In every run of a container that starts empty with the model registered, the model shows the
active dialog after each operation exactly if the operations keep it in step. -/
theorem view_mirrors_iff (operations : List Operation) :
    Run.Along perform (fun container operation => (container.perform operation).IsMirrored) empty
        operations ↔
      Run.Along perform KeepsInStep empty operations := by
  apply Run.along_iff_along (I := IsFilled) (W := IsMirrored)
  · intro container operation filled
    exact isFilled_perform filled operation
  · intro container operation filled mirrored
    exact isMirrored_perform filled mirrored operation
  · exact isFilled_empty
  · exact isMirrored_empty

/-- A dialog is selected and the selection cleared: the view still shows the dialog. -/
theorem cleared_selection_not_mirrored :
    ¬ ∀ operations : List Operation,
      Run.Along perform (fun container operation => (container.perform operation).IsMirrored) empty
        operations := by
  intro mirrors
  have cleared := mirrors [.addText (str "d") (str "hello") true, .setActiveDialog (str "d"),
    .setActiveDialog []]
  exact absurd cleared.2.2.1 (by decide)

end MessageContainer

end SecureDialogues
