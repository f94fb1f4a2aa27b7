import SecureDialogues.Lib.Effect
import SecureDialogues.Lib.Run
import SecureDialogues.Lib.Text

/-!
# The settings dialogs

`BaseSettingsDialog` (`gui/src/basesettingsdialog.cpp`) shows a list of elements and a widget for one
of them. Its signals go to the widget and to a gasket (`dialogwidgetgasket.h`), which moves elements
between the widget and their container. The dialog is the same for contacts and for connections.
-/

namespace SecureDialogues

open Text Effect

/-! ## The dialog -/

/-- `BaseSettingsDialog::State` (`basesettingsdialog.h:32`). -/
inductive SettingsState where
  | add
  | change
  | view
  deriving DecidableEq, Repr

/-- Which of its buttons a dialog shows. -/
structure SettingsButtons where
  cancelAction : Bool
  saveAction : Bool
  changeAction : Bool
  deleteAction : Bool
  deriving DecidableEq, Repr

/-- `BaseSettingsDialog` (`basesettingsdialog.h:104-105`), with what `ui` shows. -/
structure BaseSettingsDialog where
  mSelectedId : Option Str
  mCurrentState : SettingsState
  ui : SettingsButtons
  deriving DecidableEq, Repr

/-- The signals of a dialog (`basesettingsdialog.h:45-89`). -/
inductive SettingsSignal where
  | actionViewAt (id : Str)
  | actionRemoveAt (id : Str)
  | actionUpdateAt (id : Str)
  | actionAdd
  | actionCleare
  | actionEnable
  | actionDisable
  deriving DecidableEq, Repr

/-- What `actionDisable` shows (`basesettingsdialog.cpp:22-29`). -/
def viewButtons : SettingsButtons := ⟨false, false, true, true⟩

/-- What `actionEnable` shows (`basesettingsdialog.cpp:31-38`). -/
def editButtons : SettingsButtons := ⟨true, true, false, false⟩

/-- The connections of the constructor (`basesettingsdialog.cpp:22-38`). -/
def BaseSettingsDialog.hear (dialog : BaseSettingsDialog) : SettingsSignal → BaseSettingsDialog
  | .actionDisable => { dialog with ui := viewButtons }
  | .actionEnable => { dialog with ui := editButtons }
  | _ => dialog

/-- A dialog that has been constructed. -/
def BaseSettingsDialog.initial : BaseSettingsDialog where
  mSelectedId := none
  mCurrentState := .add
  ui := editButtons

/-! ## The widget and the container -/

/-- The widget of a dialog: `ω` is what it holds, `η` what its elements are, `κ` what an element is
made of besides, and `ε` what else happens to it. -/
structure SettingsWidget (ω η κ ε : Type) where
  setElement : η → ω → ω
  getElement : κ → ω → Except Str η × ω
  actionCleare : ω → ω
  actionEnable : ω → ω
  actionDisable : ω → ω
  happens : ε → ω → ω

/-- `WigetUtils::test` (`widgetsutils.cpp:6-23`): the texts of the checks that fail, a line each. -/
def WigetUtils.test (checks : List (Str × Bool)) : Except Str Unit :=
  let error := (checks.filter fun check => !check.2).flatMap fun check => check.1 ++ str "\n"
  if error ≠ [] then throw error else return ()

/-- What the container and the user answer during a click. An error is the text of an exception. -/
structure SettingsAnswers (η κ : Type) where
  get : Str → Except Str η
  add : η → Except Str Unit
  update : η → Except Str Unit
  remove : Str → Except Str Unit
  ask : Bool
  world : κ

/-- What the container is asked for. -/
inductive SettingsRequest (η : Type) where
  | add (element : η)
  | update (element : η)
  | remove (id : Str)
  deriving DecidableEq, Repr

/-- A dialog with its widget, what has been asked of the container and what the user was told, and
whether the program still runs. -/
structure Settings (ω η : Type) where
  dialog : BaseSettingsDialog
  widget : ω
  requests : List (SettingsRequest η)
  notices : List Str
  running : Bool
  deriving DecidableEq, Repr

variable {ω η κ ε : Type}

/-- `notify` of the user notifier. -/
def Settings.notify (what : Str) (settings : Settings ω η) : Settings ω η :=
  { settings with notices := settings.notices ++ [what] }

def Settings.request (request : SettingsRequest η) (settings : Settings ω η) : Settings ω η :=
  { settings with requests := settings.requests ++ [request] }

variable (ops : SettingsWidget ω η κ ε) (answers : SettingsAnswers η κ)

namespace DialogWidgetGasket

/-- `DialogWidgetGasket::viewAt` (`dialogwidgetgasket.h:62-70`). -/
def viewAt (id : Str) (settings : Settings ω η) : Settings ω η :=
  match answers.get id with
  | .ok element => { settings with widget := ops.setElement element settings.widget }
  | .error what => settings.notify what

/-- `DialogWidgetGasket::update` (`dialogwidgetgasket.h:72-80`). -/
def update (settings : Settings ω η) : Settings ω η :=
  match ops.getElement answers.world settings.widget with
  | (.ok element, widget) =>
    let asked := { settings with widget }.request (.update element)
    match answers.update element with
    | .ok _ => asked
    | .error what => asked.notify what
  | (.error what, widget) => { settings with widget }.notify what

/-- `DialogWidgetGasket::removeAt` (`dialogwidgetgasket.h:82-88`), the only slot that does not catch
the exceptions of the container. -/
def removeAt (id : Str) : Eff (Settings ω η) Str Unit :=
  if answers.ask then do
    Eff.update (·.request (.remove id))
    match answers.remove id with
    | .ok _ => pure ()
    | .error what => Eff.raise what
  else pure ()

/-- `DialogWidgetGasket::add` (`dialogwidgetgasket.h:90-100`). -/
def add (settings : Settings ω η) : Settings ω η :=
  match ops.getElement answers.world settings.widget with
  | (.ok element, widget) =>
    let asked := { settings with widget }.request (.add element)
    match answers.add element with
    | .ok _ => { asked with widget := ops.actionCleare widget }
    | .error what => asked.notify what
  | (.error what, widget) => { settings with widget }.notify what

end DialogWidgetGasket

namespace Settings

/-- What a signal is connected to (`contact_for_dialog`, `builders.cpp:33-53`, and
`ContactGasket`, `contactgasket.cpp:9-23`). -/
def hear : SettingsSignal → Eff (Settings ω η) Str Unit
  | .actionViewAt id => Eff.update (DialogWidgetGasket.viewAt ops answers id)
  | .actionRemoveAt id => DialogWidgetGasket.removeAt answers id
  | .actionUpdateAt _ => Eff.update (DialogWidgetGasket.update ops answers)
  | .actionAdd => Eff.update (DialogWidgetGasket.add ops answers)
  | .actionCleare =>
    Eff.update fun settings => { settings with widget := ops.actionCleare settings.widget }
  | .actionEnable =>
    Eff.update fun settings => { settings with widget := ops.actionEnable settings.widget }
  | .actionDisable =>
    Eff.update fun settings => { settings with widget := ops.actionDisable settings.widget }

/-- `emit`: the dialog itself was connected first. -/
def emit (signal : SettingsSignal) : Eff (Settings ω η) Str Unit := do
  Eff.update fun settings => { settings with dialog := settings.dialog.hear signal }
  hear ops answers signal

/-- `moveToState` (`basesettingsdialog.cpp:64-66`). -/
def moveToState (newState : SettingsState) : Eff (Settings ω η) Str Unit :=
  Eff.update fun settings =>
    { settings with dialog := { settings.dialog with mCurrentState := newState } }

/-- `mSelectedId = id`. -/
def select (id : Option Str) : Eff (Settings ω η) Str Unit :=
  Eff.update fun settings => { settings with dialog := { settings.dialog with mSelectedId := id } }

/-- `assert(mSelectedId)`, with the value. -/
def selectedId : Eff (Settings ω η) Str Str := do
  match ← Eff.reads (·.dialog.mSelectedId) with
  | some id => return id
  | none => Eff.terminate

/-- `on_elementsView_doubleClicked` (`basesettingsdialog.cpp:47-55`) on an element of the list. -/
def on_elementsView_doubleClicked (id : Str) : Eff (Settings ω η) Str Unit := do
  select (some id)
  moveToState .view
  emit ops answers .actionDisable
  emit ops answers (.actionViewAt id)

/-- `on_elementsAdd_clicked` (`basesettingsdialog.cpp:57-62`). -/
def on_elementsAdd_clicked : Eff (Settings ω η) Str Unit := do
  select none
  moveToState .add
  emit ops answers .actionCleare
  emit ops answers .actionEnable

/-- `on_changeAction_clicked` (`basesettingsdialog.cpp:68-72`). -/
def on_changeAction_clicked : Eff (Settings ω η) Str Unit := do
  let _ ← selectedId
  moveToState .change
  emit ops answers .actionEnable

/-- `on_deleteAction_clicked` (`basesettingsdialog.cpp:74-80`). -/
def on_deleteAction_clicked : Eff (Settings ω η) Str Unit := do
  let id ← selectedId
  moveToState .add
  emit ops answers (.actionRemoveAt id)
  emit ops answers .actionCleare
  emit ops answers .actionEnable

/-- `on_cancelAction_clicked` (`basesettingsdialog.cpp:82-91`). -/
def on_cancelAction_clicked : Eff (Settings ω η) Str Unit := do
  match ← Eff.reads (·.dialog.mCurrentState) with
  | .add => emit ops answers .actionCleare
  | .change =>
    moveToState .view
    let id ← selectedId
    emit ops answers (.actionViewAt id)
    emit ops answers .actionDisable
  | .view => return ()

/-- `on_saveAction_clicked` (`basesettingsdialog.cpp:93-102`). -/
def on_saveAction_clicked : Eff (Settings ω η) Str Unit := do
  match ← Eff.reads (·.dialog.mCurrentState) with
  | .add => emit ops answers .actionAdd
  | .change =>
    moveToState .view
    let id ← selectedId
    emit ops answers (.actionUpdateAt id)
    emit ops answers .actionDisable
  | .view => return ()

end Settings

/-! ## Clicks -/

/-- What can be clicked on: an element of the list by its identifier, or a button. -/
inductive SettingsClick where
  | elementsView (id : Str)
  | elementsAdd
  | changeAction
  | deleteAction
  | cancelAction
  | saveAction
  | closeButton
  deriving DecidableEq, Repr

/-- The slot of a click; `closeButton` cancels (`basesettingsdialog.cpp:108-111`). -/
def SettingsClick.slot : SettingsClick → Eff (Settings ω η) Str Unit
  | .elementsView id => Settings.on_elementsView_doubleClicked ops answers id
  | .elementsAdd => Settings.on_elementsAdd_clicked ops answers
  | .changeAction => Settings.on_changeAction_clicked ops answers
  | .deleteAction => Settings.on_deleteAction_clicked ops answers
  | .cancelAction => Settings.on_cancelAction_clicked ops answers
  | .saveAction => Settings.on_saveAction_clicked ops answers
  | .closeButton => Settings.on_cancelAction_clicked ops answers

/-- Only a shown button can be clicked on. -/
def SettingsClick.IsShown (dialog : BaseSettingsDialog) : SettingsClick → Prop
  | .changeAction => dialog.ui.changeAction
  | .deleteAction => dialog.ui.deleteAction
  | .cancelAction => dialog.ui.cancelAction
  | .saveAction => dialog.ui.saveAction
  | _ => True

/-- A click with what is answered during it, or what else happens to the widget. -/
inductive SettingsMove (η κ ε : Type) where
  | click (click : SettingsClick) (answers : SettingsAnswers η κ)
  | happens (event : ε)

namespace Settings

/-- What a move does, and whether it returns. An exception of a slot leaves the event loop, and the
program ends (`main.cpp:63-77`). -/
def perform (settings : Settings ω η) :
    SettingsMove η κ ε → Except (Fault Str) Unit × Settings ω η
  | .click click answers =>
    match click.slot ops answers settings with
    | (.ok _, settings') => (.ok (), settings')
    | (.error fault, settings') => (.error fault, { settings' with running := false })
  | .happens event => (.ok (), { settings with widget := ops.happens event settings.widget })

def next (settings : Settings ω η) (move : SettingsMove η κ ε) : Settings ω η :=
  (settings.perform ops move).2

/-- The program runs, and what is clicked on is shown. -/
def IsUsed (settings : Settings ω η) (move : SettingsMove η κ ε) : Prop :=
  settings.running = true ∧
    match move with
    | .click click _ => click.IsShown settings.dialog
    | .happens _ => True

/-- What the container throws when the selected element is removed, if anything. -/
def thrown (settings : Settings ω η) : SettingsMove η κ ε → Option Str
  | .click .deleteAction answers =>
    if answers.ask then
      settings.dialog.mSelectedId.bind fun id =>
        match answers.remove id with
        | .ok _ => none
        | .error what => some what
    else none
  | _ => none

/-- How a move ends: no slot fails, but for the exceptions that it lets through. -/
def outcome (settings : Settings ω η) (move : SettingsMove η κ ε) : Except (Fault Str) Unit :=
  match settings.thrown move with
  | some what => .error (.thrown what)
  | none => .ok ()

/-- The dialog around a widget. -/
def initial (widget : ω) : Settings ω η where
  dialog := .initial
  widget := widget
  requests := []
  notices := []
  running := true

end Settings

/-! ## What a click does -/

namespace BaseSettingsDialog

/-- The dialog knows what it views or changes, and shows the buttons of its state. -/
structure IsProper (dialog : BaseSettingsDialog) : Prop where
  selected : dialog.mCurrentState ≠ .add → dialog.mSelectedId.isSome
  ui : dialog.ui = if dialog.mCurrentState = .view then viewButtons else editButtons

theorem isProper_initial : initial.IsProper := ⟨fun other => absurd rfl other, rfl⟩

end BaseSettingsDialog

namespace Settings

/-- The dialog in a state, with an element selected. -/
def turned (selected : Option Str) (state : SettingsState) (settings : Settings ω η) :
    Settings ω η :=
  { settings with dialog := { settings.dialog with mSelectedId := selected, mCurrentState := state } }

/-- After `actionDisable`. -/
def disabled (settings : Settings ω η) : Settings ω η :=
  { settings with
    dialog := { settings.dialog with ui := viewButtons }
    widget := ops.actionDisable settings.widget }

/-- After `actionEnable`. -/
def enabled (settings : Settings ω η) : Settings ω η :=
  { settings with
    dialog := { settings.dialog with ui := editButtons }
    widget := ops.actionEnable settings.widget }

/-- After the user was asked whether to remove an element. -/
def removing (id : Str) (settings : Settings ω η) : Settings ω η :=
  if answers.ask then settings.request (.remove id) else settings

/-- After `actionCleare`. -/
def cleared (settings : Settings ω η) : Settings ω η :=
  { settings with widget := ops.actionCleare settings.widget }

section

variable (settings : Settings ω η) (selected : Option Str) (state : SettingsState)

@[simp] theorem turned_dialog : (settings.turned selected state).dialog =
    { settings.dialog with mSelectedId := selected, mCurrentState := state } := rfl
@[simp] theorem turned_widget : (settings.turned selected state).widget = settings.widget := rfl
@[simp] theorem turned_requests :
    (settings.turned selected state).requests = settings.requests := rfl
@[simp] theorem disabled_dialog :
    (settings.disabled ops).dialog = { settings.dialog with ui := viewButtons } := rfl
@[simp] theorem disabled_widget :
    (settings.disabled ops).widget = ops.actionDisable settings.widget := rfl
@[simp] theorem disabled_requests : (settings.disabled ops).requests = settings.requests := rfl
@[simp] theorem enabled_dialog :
    (settings.enabled ops).dialog = { settings.dialog with ui := editButtons } := rfl
@[simp] theorem enabled_widget :
    (settings.enabled ops).widget = ops.actionEnable settings.widget := rfl
@[simp] theorem enabled_requests : (settings.enabled ops).requests = settings.requests := rfl
@[simp] theorem cleared_dialog : (settings.cleared ops).dialog = settings.dialog := rfl
@[simp] theorem cleared_widget :
    (settings.cleared ops).widget = ops.actionCleare settings.widget := rfl
@[simp] theorem cleared_requests : (settings.cleared ops).requests = settings.requests := rfl

end

/-- What a move does to a proper dialog, by the state it comes in. -/
inductive Acts (settings : Settings ω η) : SettingsMove η κ ε → Settings ω η → Prop where
  | happens (event : ε) : Acts settings (.happens event)
      { settings with widget := ops.happens event settings.widget }
  | view (answers : SettingsAnswers η κ) (id : Str) :
      Acts settings (.click (.elementsView id) answers)
        (DialogWidgetGasket.viewAt ops answers id ((settings.turned (some id) .view).disabled ops))
  | start (answers : SettingsAnswers η κ) : Acts settings (.click .elementsAdd answers)
      (((settings.turned none .add).cleared ops).enabled ops)
  | change (answers : SettingsAnswers η κ) (id : Str)
      (selected : settings.dialog.mSelectedId = some id)
      (state : settings.dialog.mCurrentState = .view) : Acts settings (.click .changeAction answers)
        ((settings.turned (some id) .change).enabled ops)
  | delete (answers : SettingsAnswers η κ) (id : Str)
      (selected : settings.dialog.mSelectedId = some id)
      (state : settings.dialog.mCurrentState = .view) : Acts settings (.click .deleteAction answers)
        ((((settings.turned (some id) .add).removing answers id).cleared ops).enabled ops)
  | fail (answers : SettingsAnswers η κ) (id : Str)
      (selected : settings.dialog.mSelectedId = some id)
      (state : settings.dialog.mCurrentState = .view) : Acts settings (.click .deleteAction answers)
        { (settings.turned (some id) .add).removing answers id with running := false }
  | empty (answers : SettingsAnswers η κ) (click : SettingsClick)
      (cancels : click = .cancelAction ∨ click = .closeButton)
      (state : settings.dialog.mCurrentState = .add) : Acts settings (.click click answers)
        (settings.cleared ops)
  | restore (answers : SettingsAnswers η κ) (click : SettingsClick)
      (cancels : click = .cancelAction ∨ click = .closeButton) (id : Str)
      (selected : settings.dialog.mSelectedId = some id)
      (state : settings.dialog.mCurrentState = .change) : Acts settings (.click click answers)
        ((DialogWidgetGasket.viewAt ops answers id (settings.turned (some id) .view)).disabled ops)
  | close (answers : SettingsAnswers η κ) (state : settings.dialog.mCurrentState = .view) :
      Acts settings (.click .closeButton answers) settings
  | add (answers : SettingsAnswers η κ) (state : settings.dialog.mCurrentState = .add) :
      Acts settings (.click .saveAction answers) (DialogWidgetGasket.add ops answers settings)
  | save (answers : SettingsAnswers η κ) (id : Str)
      (selected : settings.dialog.mSelectedId = some id)
      (state : settings.dialog.mCurrentState = .change) : Acts settings (.click .saveAction answers)
        ((DialogWidgetGasket.update ops answers (settings.turned (some id) .view)).disabled ops)

variable {ops answers} {settings : Settings ω η}

/-- `assert(mSelectedId)` holds when an element is selected. -/
theorem selectedId_bind {id : Str} (selected : settings.dialog.mSelectedId = some id)
    (rest : Str → Eff (Settings ω η) Str Unit) :
    (selectedId >>= rest) settings = rest id settings := by
  apply Eff.bind_ok
  rw [selectedId, Eff.reads_bind, selected]
  rfl

theorem moveToState_bind (state : SettingsState) (rest : Unit → Eff (Settings ω η) Str Unit) :
    (moveToState state >>= rest) settings =
      rest () (settings.turned settings.dialog.mSelectedId state) := rfl

theorem turned_selected {id : Str} (selected : settings.dialog.mSelectedId = some id)
    (state : SettingsState) : settings.turned (some id) state =
      { settings with dialog := { settings.dialog with mCurrentState := state } } := by
  rw [← selected]
  rfl

section

variable (ops answers)

/-- A slot that returns. -/
theorem perform_of_slot {click : SettingsClick} {settings' : Settings ω η}
    (slot : click.slot ops answers settings = (.ok (), settings')) :
    settings.perform ops (.click click answers) = (.ok (), settings') := by
  rw [perform, slot]

theorem on_changeAction_clicked_eq {id : Str} (selected : settings.dialog.mSelectedId = some id) :
    on_changeAction_clicked ops answers settings =
      (.ok (), (settings.turned (some id) .change).enabled ops) := by
  rw [on_changeAction_clicked, selectedId_bind selected, turned_selected selected]
  rfl

/-- The signals after `actionRemoveAt` are emitted unless the container throws. -/
theorem acts_delete {id : Str} (selected : settings.dialog.mSelectedId = some id)
    (state : settings.dialog.mCurrentState = .view) :
    ∃ settings', settings.perform ops (.click .deleteAction answers) =
        (settings.outcome (.click .deleteAction answers : SettingsMove η κ ε), settings') ∧
      settings.Acts ops (.click .deleteAction answers) settings' := by
  have start : SettingsClick.deleteAction.slot ops answers settings =
      (do
        DialogWidgetGasket.removeAt answers id
        emit ops answers .actionCleare
        emit ops answers .actionEnable) (settings.turned (some id) .add) := by
    rw [SettingsClick.slot, on_deleteAction_clicked, selectedId_bind selected,
      turned_selected selected]
    rfl
  have returns (removed : DialogWidgetGasket.removeAt answers id (settings.turned (some id) .add) =
        (.ok (), (settings.turned (some id) .add).removing answers id))
      (nothing : settings.thrown (.click .deleteAction answers : SettingsMove η κ ε) = none) :
      settings.perform ops (.click .deleteAction answers : SettingsMove η κ ε) =
        (settings.outcome (.click .deleteAction answers : SettingsMove η κ ε),
          (((settings.turned (some id) .add).removing answers id).cleared ops).enabled ops) := by
    rw [perform, start, Eff.bind_ok removed, outcome, nothing]
    rfl
  cases asks : answers.ask with
  | false =>
    refine ⟨_, returns ?_ ?_, .delete answers id selected state⟩
    · simp [DialogWidgetGasket.removeAt, removing, asks]
    · simp [thrown, asks]
  | true =>
    cases removed : answers.remove id with
    | ok =>
      refine ⟨_, returns ?_ ?_, .delete answers id selected state⟩
      · simp [DialogWidgetGasket.removeAt, removing, asks, removed]
      · simp [thrown, asks, selected, removed]
    | error what =>
      have failed : DialogWidgetGasket.removeAt answers id (settings.turned (some id) .add) =
          (.error (.thrown what), (settings.turned (some id) .add).removing answers id) := by
        simp [DialogWidgetGasket.removeAt, removing, asks, removed, Eff.raise]
      refine ⟨_, ?_, .fail answers id selected state⟩
      rw [perform, start, Eff.bind_error failed]
      simp [outcome, thrown, asks, selected, removed]

theorem on_cancelAction_clicked_change {id : Str} (selected : settings.dialog.mSelectedId = some id)
    (state : settings.dialog.mCurrentState = .change) :
    on_cancelAction_clicked ops answers settings =
      (.ok (), (DialogWidgetGasket.viewAt ops answers id
        (settings.turned (some id) .view)).disabled ops) := by
  rw [on_cancelAction_clicked, Eff.reads_bind, state]
  have turned : (settings.turned (some id) .view).dialog.mSelectedId = some id := rfl
  dsimp only
  rw [moveToState_bind, selected, selectedId_bind turned]
  rfl

theorem on_saveAction_clicked_change {id : Str} (selected : settings.dialog.mSelectedId = some id)
    (state : settings.dialog.mCurrentState = .change) :
    on_saveAction_clicked ops answers settings =
      (.ok (), (DialogWidgetGasket.update ops answers
        (settings.turned (some id) .view)).disabled ops) := by
  rw [on_saveAction_clicked, Eff.reads_bind, state]
  have turned : (settings.turned (some id) .view).dialog.mSelectedId = some id := rfl
  dsimp only
  rw [moveToState_bind, selected, selectedId_bind turned]
  rfl

/-- A cancelled dialog, by its state. -/
theorem acts_cancel (proper : settings.dialog.IsProper) {click : SettingsClick}
    (slot : click.slot ops answers = on_cancelAction_clicked ops answers)
    (cancels : click = .cancelAction ∨ click = .closeButton)
    (used : click.IsShown settings.dialog) :
    ∃ settings', settings.perform ops (.click click answers) = (.ok (), settings') ∧
      settings.Acts ops (.click click answers) settings' := by
  cases state : settings.dialog.mCurrentState with
  | add =>
    refine ⟨settings.cleared ops, perform_of_slot ops answers ?_, .empty answers click cancels state⟩
    rw [slot, on_cancelAction_clicked, Eff.reads_bind, state]
    rfl
  | change =>
    have other : settings.dialog.mCurrentState ≠ .add := by simp [state]
    obtain ⟨id, selected⟩ := Option.isSome_iff_exists.mp (proper.selected other)
    refine ⟨_, perform_of_slot ops answers ?_, .restore answers click cancels id selected state⟩
    rw [slot]
    exact on_cancelAction_clicked_change ops answers selected state
  | view =>
    rcases cancels with rfl | rfl
    · simp [SettingsClick.IsShown, proper.ui, state, viewButtons] at used
    · refine ⟨settings, perform_of_slot ops answers ?_, .close answers state⟩
      rw [slot, on_cancelAction_clicked, Eff.reads_bind, state]
      rfl

end

/-- A proper dialog that shows a button of the view is in that state. -/
theorem view_of_shown (proper : settings.dialog.IsProper)
    (shown : settings.dialog.ui ≠ editButtons) :
    settings.dialog.mCurrentState = .view ∧ ∃ id, settings.dialog.mSelectedId = some id := by
  have state : settings.dialog.mCurrentState = .view := by
    by_contra other
    exact shown (proper.ui.trans (if_neg other))
  have other : settings.dialog.mCurrentState ≠ .add := by simp [state]
  exact ⟨state, Option.isSome_iff_exists.mp (proper.selected other)⟩

/-- No assertion of a proper dialog fails. -/
theorem acts (proper : settings.dialog.IsProper) {move : SettingsMove η κ ε}
    (used : settings.IsUsed move) :
    ∃ settings', settings.perform ops move = (settings.outcome move, settings') ∧
      settings.Acts ops move settings' := by
  have used := used.2
  cases move with
  | happens event => exact ⟨_, rfl, .happens event⟩
  | click click answers =>
    cases click with
    | elementsView id => exact ⟨_, rfl, .view answers id⟩
    | elementsAdd => exact ⟨_, rfl, .start answers⟩
    | changeAction =>
      have shown : settings.dialog.ui ≠ editButtons := by
        intro edits
        simp [SettingsClick.IsShown, edits, editButtons] at used
      obtain ⟨state, id, selected⟩ := view_of_shown proper shown
      exact ⟨_, perform_of_slot ops answers (on_changeAction_clicked_eq ops answers selected),
        .change answers id selected state⟩
    | deleteAction =>
      have shown : settings.dialog.ui ≠ editButtons := by
        intro edits
        simp [SettingsClick.IsShown, edits, editButtons] at used
      obtain ⟨state, id, selected⟩ := view_of_shown proper shown
      exact acts_delete ops answers selected state
    | cancelAction => exact acts_cancel ops answers proper rfl (.inl rfl) used
    | closeButton => exact acts_cancel ops answers proper rfl (.inr rfl) used
    | saveAction =>
      cases state : settings.dialog.mCurrentState with
      | add =>
        refine ⟨_, perform_of_slot ops answers ?_, .add answers state⟩
        rw [SettingsClick.slot, on_saveAction_clicked, Eff.reads_bind, state]
        rfl
      | change =>
        have other : settings.dialog.mCurrentState ≠ .add := by simp [state]
        obtain ⟨id, selected⟩ := Option.isSome_iff_exists.mp (proper.selected other)
        refine ⟨_, perform_of_slot ops answers ?_, .save answers id selected state⟩
        exact on_saveAction_clicked_change ops answers selected state
      | view => simp [SettingsClick.IsShown, proper.ui, state, viewButtons] at used

section

variable (ops answers settings)

@[simp] theorem viewAt_dialog (id : Str) :
    (DialogWidgetGasket.viewAt ops answers id settings).dialog = settings.dialog := by
  rw [DialogWidgetGasket.viewAt]
  cases answers.get id <;> rfl

@[simp] theorem viewAt_requests (id : Str) :
    (DialogWidgetGasket.viewAt ops answers id settings).requests = settings.requests := by
  rw [DialogWidgetGasket.viewAt]
  cases answers.get id <;> rfl

@[simp] theorem removing_dialog (id : Str) :
    (settings.removing answers id).dialog = settings.dialog := by
  rw [removing]
  split <;> rfl

@[simp] theorem removing_widget (id : Str) :
    (settings.removing answers id).widget = settings.widget := by
  rw [removing]
  split <;> rfl

@[simp] theorem removing_requests (id : Str) :
    (settings.removing answers id).requests =
      settings.requests ++ if answers.ask then [.remove id] else [] := by
  rw [removing]
  cases answers.ask
  · exact (List.append_nil _).symm
  · rfl

/-- What the widget hands over, if anything. -/
def handed (world : κ) : Option η := (ops.getElement world settings.widget).1.toOption

@[simp] theorem update_dialog :
    (DialogWidgetGasket.update ops answers settings).dialog = settings.dialog := by
  unfold DialogWidgetGasket.update
  split
  · split <;> rfl
  · rfl

@[simp] theorem update_requests : (DialogWidgetGasket.update ops answers settings).requests =
    settings.requests ++ ((settings.handed ops answers.world).map .update).toList := by
  unfold DialogWidgetGasket.update handed
  rcases ops.getElement answers.world settings.widget with ⟨what | element, widget⟩
  · exact (List.append_nil _).symm
  · dsimp only
    split <;> rfl

theorem viewAt_widget (id : Str) : (DialogWidgetGasket.viewAt ops answers id settings).widget =
    match answers.get id with
    | .ok element => ops.setElement element settings.widget
    | .error _ => settings.widget := by
  rw [DialogWidgetGasket.viewAt]
  cases answers.get id <;> rfl

theorem update_widget : (DialogWidgetGasket.update ops answers settings).widget =
    (ops.getElement answers.world settings.widget).2 := by
  unfold DialogWidgetGasket.update
  rcases ops.getElement answers.world settings.widget with ⟨what | element, widget⟩
  · rfl
  · dsimp only
    split <;> rfl

/-- The widget is cleared if the element that it has handed over is accepted. -/
theorem add_widget : (DialogWidgetGasket.add ops answers settings).widget =
      (ops.getElement answers.world settings.widget).2 ∨
    (settings.handed ops answers.world).isSome ∧
      (DialogWidgetGasket.add ops answers settings).widget =
        ops.actionCleare (ops.getElement answers.world settings.widget).2 := by
  unfold DialogWidgetGasket.add handed
  rcases ops.getElement answers.world settings.widget with ⟨what | element, widget⟩
  · exact .inl rfl
  · dsimp only
    split
    · exact .inr ⟨rfl, rfl⟩
    · exact .inl rfl

@[simp] theorem add_dialog :
    (DialogWidgetGasket.add ops answers settings).dialog = settings.dialog := by
  unfold DialogWidgetGasket.add
  split
  · split <;> rfl
  · rfl

@[simp] theorem add_requests : (DialogWidgetGasket.add ops answers settings).requests =
    settings.requests ++ ((settings.handed ops answers.world).map .add).toList := by
  unfold DialogWidgetGasket.add handed
  rcases ops.getElement answers.world settings.widget with ⟨what | element, widget⟩
  · exact (List.append_nil _).symm
  · dsimp only
    split <;> rfl

end

/-! ## Runs -/

/-- What a cancelled dialog shows. -/
def shownByCancel (settings : Settings ω η) (answers : SettingsAnswers η κ) : Option (Option η) :=
  match settings.dialog.mCurrentState with
  | .add => some none
  | .change => (settings.dialog.mSelectedId.bind fun id => (answers.get id).toOption).map some
  | .view => none

/-- What a move shows in the widget, if anything: an element that is found, or none once the widget
is cleared. -/
def shows (settings : Settings ω η) : SettingsMove η κ ε → Option (Option η)
  | .click (.elementsView id) answers => (answers.get id).toOption.map some
  | .click .elementsAdd _ => some none
  | .click .deleteAction _ => some none
  | .click .cancelAction answers => settings.shownByCancel answers
  | .click .closeButton answers => settings.shownByCancel answers
  | _ => none

/-- What the move selects, if anything: the clicked element, or none for a new one. -/
def selects : SettingsMove η κ ε → Option (Option Str)
  | .click (.elementsView id) _ => some (some id)
  | .click .elementsAdd _ => some none
  | _ => none

theorem Acts.isProper {move : SettingsMove η κ ε} {settings' : Settings ω η}
    (proper : settings.dialog.IsProper) (acts : settings.Acts ops move settings')
    (running : settings'.running = true) : settings'.dialog.IsProper := by
  cases acts with
  | happens event => exact proper
  | view answers id => constructor <;> simp
  | start answers => constructor <;> simp
  | change answers id selected state => constructor <;> simp
  | delete answers id selected state => constructor <;> simp
  | fail answers id selected state => cases running
  | empty answers click cancels state => exact proper
  | restore answers click cancels id selected state => constructor <;> simp
  | close answers state => exact proper
  | add answers state =>
    rw [add_dialog]
    exact proper
  | save answers id selected state => constructor <;> simp

/-- What is selected stays so unless the move selects. -/
theorem Acts.mSelectedId {move : SettingsMove η κ ε} {settings' : Settings ω η}
    (acts : settings.Acts ops move settings') :
    settings'.dialog.mSelectedId = (selects move).getD settings.dialog.mSelectedId := by
  cases acts with
  | happens event => rfl
  | view answers id => simp [selects]
  | start answers => simp [selects]
  | change answers id selected state => simp [selects, selected]
  | delete answers id selected state => simp [selects, selected]
  | fail answers id selected state => simp [selects, selected]
  | empty answers click cancels state => rcases cancels with rfl | rfl <;> rfl
  | restore answers click cancels id selected state =>
    rcases cancels with rfl | rfl <;> simp [selects, selected]
  | close answers state => rfl
  | add answers state => simp [selects]
  | save answers id selected state => simp [selects, selected]

end Settings

/-- A request is one for the state of the dialog, and removes only what is selected. -/
def SettingsRequest.Suits (state : SettingsState) (selected : Option Str) :
    SettingsRequest η → Prop
  | .add _ => state = .add
  | .update _ => state = .change
  | .remove id => state = .view ∧ selected = some id

/-- What is added or updated is what the widget has handed over. -/
def SettingsRequest.IsOf (handed : Option η) : SettingsRequest η → Prop
  | .add element => handed = some element
  | .update element => handed = some element
  | .remove _ => True

namespace Settings

variable {ops} {settings : Settings ω η}

/-- A move makes one request at most. -/
theorem Acts.requests {move : SettingsMove η κ ε} {settings' : Settings ω η}
    (acts : settings.Acts ops move settings') :
    ∃ asked : Option (SettingsRequest η), settings'.requests = settings.requests ++ asked.toList ∧
      ∀ request ∈ asked,
        request.Suits settings.dialog.mCurrentState settings.dialog.mSelectedId ∧
        ∀ click answers, move = .click click answers →
          request.IsOf (settings.handed ops answers.world) := by
  have unasked :
      settings.requests = settings.requests ++ (none : Option (SettingsRequest η)).toList :=
    (List.append_nil _).symm
  cases acts with
  | happens event => exact ⟨none, unasked, nofun⟩
  | view answers id => exact ⟨none, by simp, nofun⟩
  | start answers => exact ⟨none, unasked, nofun⟩
  | change answers id selected state => exact ⟨none, unasked, nofun⟩
  | delete answers id selected state | fail answers id selected state =>
    refine ⟨if answers.ask then some (.remove id) else none, ?_, ?_⟩
    · cases asks : answers.ask <;> simp [asks]
    · intro request member
      obtain ⟨-, ⟨⟩⟩ := Option.ite_none_right_eq_some.mp member
      exact ⟨⟨state, selected⟩, fun _ _ _ => trivial⟩
  | empty answers click cancels state => exact ⟨none, unasked, nofun⟩
  | restore answers click cancels id selected state => exact ⟨none, by simp, nofun⟩
  | close answers state => exact ⟨none, unasked, nofun⟩
  | add answers state =>
    refine ⟨(settings.handed ops answers.world).map .add, add_requests ops answers settings, ?_⟩
    intro request member
    obtain ⟨element, handed, rfl⟩ := Option.map_eq_some_iff.mp member
    refine ⟨state, ?_⟩
    rintro _ _ ⟨⟩
    exact handed
  | save answers id selected state =>
    refine ⟨(settings.handed ops answers.world).map .update, by simp [handed], ?_⟩
    intro request member
    obtain ⟨element, handed, rfl⟩ := Option.map_eq_some_iff.mp member
    refine ⟨state, ?_⟩
    rintro _ _ ⟨⟩
    exact handed

/-- Only a save of a new element adds one. -/
theorem Acts.eq_add {click : SettingsClick} {settings' : Settings ω η} {element : η}
    (acts : settings.Acts ops (.click click answers) settings')
    (requests : settings'.requests = settings.requests ++ [.add element]) :
    settings' = DialogWidgetGasket.add ops answers settings := by
  cases acts with
  | view id => simp at requests
  | start => simp at requests
  | change id selected state => simp at requests
  | delete id selected state | fail id selected state =>
    cases asks : answers.ask <;> simp [asks] at requests
  | empty cancels state => simp at requests
  | restore cancels id selected state => simp at requests
  | close state => simp at requests
  | add state => rfl
  | save id selected state => simp at requests

section

variable (ops) (widget : ω)

/-- What has been selected last in a run, unless it was a new element. -/
def lastSelected (moves : List (SettingsMove η κ ε)) : Option Str :=
  (Run.latest (next ops) (fun _ => selects) (initial widget) moves).join

/-- What a run of a dialog around a widget keeps. -/
theorem selected_after {moves : List (SettingsMove η κ ε)}
    (used : Run.Along (next ops) IsUsed (initial widget) moves) :
    ((Run.after (next ops) (initial widget) moves).running = true →
      (Run.after (next ops) (initial widget) moves).dialog.IsProper) ∧
      (Run.after (next ops) (initial widget) moves).dialog.mSelectedId =
        lastSelected ops widget moves := by
  let I (moves : List (SettingsMove η κ ε)) (settings : Settings ω η) : Prop :=
    (settings.running = true → settings.dialog.IsProper) ∧
      settings.dialog.mSelectedId = lastSelected ops widget moves
  have start : I [] (initial widget) := ⟨fun _ => BaseSettingsDialog.isProper_initial, rfl⟩
  refine Run.history_after (I := I) start ?_ used
  rintro before move ⟨proper, selected⟩ used
  obtain ⟨settings', performed, acts⟩ := acts (proper used.1) used
  rw [next, performed]
  refine ⟨acts.isProper (proper used.1), acts.mSelectedId.trans ?_⟩
  rw [selected, lastSelected, lastSelected, Run.latest_concat]
  cases selects move <;> rfl

/-- The move acts on the proper dialog that a run has led to. -/
theorem acts_after {moves : List (SettingsMove η κ ε)} {move : SettingsMove η κ ε}
    (used : Run.Along (next ops) IsUsed (initial widget) (moves ++ [move])) :
    let settings := Run.after (next ops) (initial widget) moves
    (settings.perform ops move).1 = settings.outcome move ∧
      settings.Acts ops move (settings.next ops move) := by
  obtain ⟨before, now, -⟩ := (Run.along_append _ _ _ _).mp used
  obtain ⟨settings', performed, acts⟩ := acts ((selected_after ops widget before).1 now.1) now
  dsimp only
  rw [next, performed]
  exact ⟨rfl, acts⟩

end

end Settings

/-- Whatever is clicked on while the program runs, no assertion fails and the slot returns unless the
container throws at a removal, the dialog shows the buttons of its state, and the container is asked
at most once a click, and only to remove what the user has selected last. -/
theorem settings_dialog_works (widget : ω) (moves : List (SettingsMove η κ ε))
    (move : SettingsMove η κ ε)
    (used : Run.Along (Settings.next ops) Settings.IsUsed (.initial widget) (moves ++ [move])) :
    let settings := Run.after (Settings.next ops) (.initial widget) moves
    settings.dialog.IsProper ∧ (settings.perform ops move).1 = settings.outcome move ∧
      ∃ asked : Option (SettingsRequest η),
        (settings.next ops move).requests = settings.requests ++ asked.toList ∧
        ∀ request ∈ asked, request.Suits settings.dialog.mCurrentState
          (Settings.lastSelected ops widget moves) := by
  intro settings
  obtain ⟨before, now, -⟩ := (Run.along_append _ _ _ _).mp used
  obtain ⟨proper, selected⟩ := Settings.selected_after ops widget before
  obtain ⟨returned, acts⟩ := Settings.acts_after ops widget used
  obtain ⟨asked, requests, suits⟩ := acts.requests
  rw [selected] at suits
  exact ⟨proper now.1, returned, asked, requests, fun request member => (suits request member).1⟩

namespace Sample

/-- A widget for one text. -/
def textWidget : SettingsWidget Str Str Unit Str where
  setElement element _ := element
  getElement _ text := (.ok text, text)
  actionCleare _ := []
  actionEnable text := text
  actionDisable text := text
  happens event _ := event

/-- A container that finds each text under itself, and a user who agrees. -/
def agreeing : SettingsAnswers Str Unit where
  get := .ok
  add _ := .ok ()
  update _ := .ok ()
  remove _ := .ok ()
  ask := true
  world := ()

end Sample

/-- An element is viewed and removed. -/
theorem sample_settings_dialog_works :
    let settings := Run.after (Settings.next Sample.textWidget) (.initial [])
      [.click (.elementsView (str "a")) Sample.agreeing]
    settings.dialog.IsProper ∧
      (settings.perform Sample.textWidget (.click .deleteAction Sample.agreeing)).1 =
        settings.outcome (.click .deleteAction Sample.agreeing : SettingsMove Str Unit Str) ∧
      ∃ asked : Option (SettingsRequest Str),
        (settings.next Sample.textWidget (.click .deleteAction Sample.agreeing)).requests =
          settings.requests ++ asked.toList ∧
        ∀ request ∈ asked, request.Suits settings.dialog.mCurrentState
          (Settings.lastSelected Sample.textWidget []
            [.click (.elementsView (str "a")) Sample.agreeing]) := by
  apply settings_dialog_works Sample.textWidget [] [.click (.elementsView (str "a")) Sample.agreeing]
    (.click .deleteAction Sample.agreeing)
  exact ⟨⟨rfl, trivial⟩, ⟨rfl, rfl⟩, trivial⟩

end SecureDialogues
