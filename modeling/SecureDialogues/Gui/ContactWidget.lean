import SecureDialogues.Gui.BaseSettingsDialog
import SecureDialogues.Gui.ListModels

/-!
# The fields of a contact

`ContactWidget` (`gui/src/widgets/contactwidget.cpp`) shows a contact in fields and makes a contact of
what stands in them. It keeps the contact that it shows for the identifier of the one it makes.
-/

namespace SecureDialogues

open Text

/-- What the fields of a contact use of `PluginAddressValidator`
(`plugin-api/export/pluginaddressvalidator.h`). A null pointer is an empty text. -/
structure AddressValidator where
  isValid : Str → Str
  peelAddress : Str → Str

/-- `ContactWidget` (`contactwidget.h:69-70`) with its fields. -/
structure ContactWidget where
  contactAdress : Str
  contactName : Str
  publicKey : Str
  channelMonikers : List (ListItem AddressValidator)
  currentIndex : Option Nat
  enabled : Bool
  mContact : Option Contact

/-- What else happens to the fields: the user edits them while they are enabled, and the channels
change. -/
inductive ContactEvent where
  | contactAdress (text : Str)
  | contactName (text : Str)
  | publicKey (text : Str)
  | channelMoniker (index : Nat)
  | channels (items : List (ListItem AddressValidator)) (currentIndex : Option Nat)

namespace ContactWidget

variable (widget : ContactWidget)

/-- `currentData` of the channels. -/
def currentItem : Option (ListItem AddressValidator) :=
  widget.currentIndex.bind fun index => widget.channelMonikers[index]?

/-- `currentText` of the channels. -/
def currentText : Str := (widget.currentItem.map (·.name)).getD []

/-- The validator of the chosen channel. -/
def validator : Option AddressValidator := widget.currentItem.bind (·.validator)

/-- `setCurrentText` of the channels: nothing is chosen for a text that none of them has. -/
def setCurrentText (text : Str) : ContactWidget :=
  match widget.channelMonikers.findIdx? fun item => item.name = text with
  | some index => { widget with currentIndex := some index }
  | none => widget

/-- `ContactWidget::setElement` (`contactwidget.cpp:53-65`). -/
def setElement (info : Contact) : ContactWidget :=
  { widget.setCurrentText info.channelMoniker with
    contactAdress := info.adress
    contactName := info.name
    publicKey := info.publicKey
    mContact := some info }

/-- The checks of `getElement` (`contactwidget.cpp:78-96`). -/
def checks : List (Str × Bool) :=
  [(str "Field 'Address' should be completed", widget.contactAdress ≠ []),
    (str "Please, set contact name", widget.contactName ≠ []),
    (str "Please declare public key for commnication with contact", widget.publicKey ≠ []),
    (str "Selected connection without appropriative plugin", widget.validator.isSome)]

/-- The contact of `getElement` (`contactwidget.cpp:98-121`), where `trimmed` is `QString::trimmed`
and `uiid` what `make_uiid` returns. The last check leaves no channel without a validator. -/
def made (trimmed : Str → Str) (uiid : Str) : Except Str Contact := do
  WigetUtils.test widget.checks
  match widget.validator with
  | none => throw []
  | some validator =>
    let userAddressText := cstr (trimmed widget.contactAdress)
    let mess := validator.isValid userAddressText
    if mess ≠ [] then throw mess
    return {
      channelMoniker := widget.currentText
      name := trimmed widget.contactName
      adress := validator.peelAddress userAddressText
      id := (widget.mContact.map (·.id)).getD uiid
      publicKey := trimmed widget.publicKey }

/-- `ContactWidget::getElement` (`contactwidget.cpp:67-126`). -/
def getElement (trimmed : Str → Str) (uiid : Str) : Except Str Contact × ContactWidget :=
  match widget.made trimmed uiid with
  | .ok contact => (.ok contact, { widget with mContact := none })
  | .error what => (.error what, widget)

/-- `ContactWidget::actionCleare` (`contactwidget.cpp:128-131`). -/
def actionCleare : ContactWidget :=
  { widget with contactAdress := [], contactName := [], publicKey := [], mContact := none }

/-- `changeEnabled` (`contactwidget.cpp:133-139`). -/
def changeEnabled (enabled : Bool) : ContactWidget := { widget with enabled }

/-- A field is edited only while it is enabled. -/
def happens : ContactEvent → ContactWidget
  | .contactAdress text => if widget.enabled then { widget with contactAdress := text } else widget
  | .contactName text => if widget.enabled then { widget with contactName := text } else widget
  | .publicKey text => if widget.enabled then { widget with publicKey := text } else widget
  | .channelMoniker index =>
    if widget.enabled then { widget with currentIndex := some index } else widget
  | .channels items currentIndex => { widget with channelMonikers := items, currentIndex }

/-- The widget as one of a settings dialog. -/
def ops (trimmed : Str → Str) : SettingsWidget ContactWidget Contact Str ContactEvent where
  setElement info widget := widget.setElement info
  getElement uiid widget := widget.getElement trimmed uiid
  actionCleare := actionCleare
  actionEnable widget := widget.changeEnabled true
  actionDisable widget := widget.changeEnabled false
  happens event widget := widget.happens event

end ContactWidget

/-! ## Which contact is edited -/

namespace ContactWidget

/-- What a dialog of contacts and what happens to it. -/
abbrev Move := SettingsMove Contact Str ContactEvent

variable (trimmed : Str → Str)

/-- What a move makes of the contact that is kept: one that is shown is, and none is once the fields
have been cleared or a contact has been taken from them. -/
def kept (settings : Settings ContactWidget Contact) : Move → Option (Option Contact)
  | .click .saveAction answers =>
    (settings.handed (ops trimmed) answers.world).map fun _ => none
  | move => settings.shows move

/-- The contact that was shown last, unless it is no longer kept. -/
def lastKept (widget : ContactWidget) (moves : List Move) : Option Contact :=
  (Run.latest (Settings.next (ops trimmed)) (kept trimmed) (.initial widget) moves).join

end ContactWidget

/-- What is added has a new identifier, and what is updated that of the kept contact, or a new one. -/
def SettingsRequest.IsIdentified (uiid : Str) (kept : Option Contact) :
    SettingsRequest Contact → Prop
  | .add contact => contact.id = uiid
  | .update contact => contact.id = (kept.map (·.id)).getD uiid
  | .remove _ => True

namespace ContactWidget

section

variable {trimmed} {settings : Settings ContactWidget Contact} {answers : SettingsAnswers Contact Str}

/-- What is made of the fields has the identifier of the kept contact. -/
theorem id_of_handed {uiid : Str} {contact : Contact}
    (handed : settings.handed (ops trimmed) uiid = some contact) :
    contact.id = (settings.widget.mContact.map (·.id)).getD uiid := by
  change (settings.widget.getElement trimmed uiid).1.toOption = some contact at handed
  rw [getElement] at handed
  cases made : settings.widget.made trimmed uiid with
  | error what =>
    rw [made] at handed
    cases handed
  | ok contact' =>
    rw [made] at handed
    cases handed
    obtain ⟨-, -, made⟩ := Effect.except_bind_eq_ok.mp made
    cases found : settings.widget.validator with
    | none =>
      rw [found] at made
      cases made
    | some validator =>
      rw [found] at made
      dsimp only at made
      split at made
      · cases made
      · cases made
        rfl

variable (trimmed settings answers)

theorem viewAt_mContact (id : Str) :
    (DialogWidgetGasket.viewAt (ops trimmed) answers id settings).widget.mContact =
      ((answers.get id).toOption.map some).getD settings.widget.mContact := by
  rw [Settings.viewAt_widget]
  cases answers.get id <;> rfl

theorem getElement_mContact (widget : ContactWidget) (uiid : Str) :
    (widget.getElement trimmed uiid).2.mContact =
      ((widget.getElement trimmed uiid).1.toOption.map fun _ => none).getD widget.mContact := by
  rw [getElement]
  cases widget.made trimmed uiid <;> rfl

theorem update_mContact :
    (DialogWidgetGasket.update (ops trimmed) answers settings).widget.mContact =
      ((settings.handed (ops trimmed) answers.world).map fun _ => none).getD
        settings.widget.mContact := by
  rw [Settings.update_widget]
  exact getElement_mContact trimmed settings.widget answers.world

theorem add_mContact :
    (DialogWidgetGasket.add (ops trimmed) answers settings).widget.mContact =
      ((settings.handed (ops trimmed) answers.world).map fun _ => none).getD
        settings.widget.mContact := by
  rcases Settings.add_widget (ops trimmed) answers settings with taken | ⟨handed, cleared⟩
  · rw [taken]
    exact getElement_mContact trimmed settings.widget answers.world
  · obtain ⟨contact, handed⟩ := Option.isSome_iff_exists.mp handed
    rw [cleared, handed]
    rfl

variable {trimmed settings}

theorem kept_of_cancels {click : SettingsClick}
    (cancels : click = .cancelAction ∨ click = .closeButton) :
    kept trimmed settings (.click click answers) = settings.shownByCancel answers := by
  rcases cancels with rfl | rfl <;> rfl

/-- What a move makes of the kept contact. -/
theorem acts_mContact {move : Move} {settings' : Settings ContactWidget Contact}
    (acts : settings.Acts (ops trimmed) move settings') (running : settings'.running = true) :
    settings'.widget.mContact = (kept trimmed settings move).getD settings.widget.mContact := by
  cases acts with
  | happens event =>
    cases event with
    | channels items currentIndex => rfl
    | _ =>
      simp only [ops, happens]
      split <;> rfl
  | view answers id => exact viewAt_mContact trimmed _ answers id
  | start answers => rfl
  | change answers id selected state => rfl
  | delete answers id selected state => rfl
  | fail answers id selected state => cases running
  | empty answers click cancels state =>
    rw [kept_of_cancels answers cancels, Settings.shownByCancel, state]
    rfl
  | restore answers click cancels id selected state =>
    rw [kept_of_cancels answers cancels, Settings.shownByCancel, state, selected]
    exact viewAt_mContact trimmed (settings.turned (some id) .view) answers id
  | close answers state =>
    rw [kept_of_cancels answers (.inr rfl), Settings.shownByCancel, state]
    rfl
  | add answers state => exact add_mContact trimmed settings answers
  | save answers id selected state =>
    exact update_mContact trimmed (settings.turned (some id) .view) answers

variable (trimmed) in
/-- What a run of the dialog keeps. -/
structure IsKept (widget : ContactWidget) (moves : List Move)
    (settings : Settings ContactWidget Contact) : Prop where
  proper : settings.dialog.IsProper
  mContact : settings.widget.mContact = lastKept trimmed widget moves
  add : settings.dialog.mCurrentState = .add → settings.widget.mContact = none

/-- A dialog that turns to a new contact keeps none. -/
theorem acts_add {move : Move} {settings' : Settings ContactWidget Contact}
    (acts : settings.Acts (ops trimmed) move settings') (running : settings'.running = true)
    (empty : settings.dialog.mCurrentState = .add → settings.widget.mContact = none)
    (state' : settings'.dialog.mCurrentState = .add) : settings'.widget.mContact = none := by
  have kept := acts_mContact acts running
  cases acts with
  | happens event => exact kept.trans (empty state')
  | view answers id => simp at state'
  | start answers => exact kept
  | change answers id selected state => simp at state'
  | delete answers id selected state => exact kept
  | fail answers id selected state => cases running
  | empty answers click cancels state => rfl
  | restore answers click cancels id selected state => simp at state'
  | close answers state => exact empty state'
  | add answers state =>
    rw [kept, ContactWidget.kept, empty state]
    cases settings.handed (ops trimmed) answers.world <;> rfl
  | save answers id selected state => simp at state'

theorem isKept_after {widget : ContactWidget} (unshown : widget.mContact = none) {moves : List Move}
    (used : Run.Along (Settings.next (ops trimmed)) Settings.IsUsed (.initial widget) moves) :
    (Run.after (Settings.next (ops trimmed)) (.initial widget) moves).running = true →
      IsKept trimmed widget moves
        (Run.after (Settings.next (ops trimmed)) (.initial widget) moves) := by
  let I (moves : List Move) (settings : Settings ContactWidget Contact) : Prop :=
    settings.running = true → IsKept trimmed widget moves settings
  have start : I [] (.initial widget) :=
    fun _ => ⟨BaseSettingsDialog.isProper_initial, unshown, fun _ => unshown⟩
  refine Run.history_after (I := I) start ?_ used
  intro before move keeps used
  have kept := keeps used.1
  obtain ⟨settings', performed, acts⟩ := Settings.acts kept.proper used
  rw [Settings.next, performed]
  intro running
  refine ⟨acts.isProper kept.proper running, (acts_mContact acts running).trans ?_,
    acts_add acts running kept.add⟩
  rw [kept.mContact, lastKept, lastKept, Run.latest_concat]
  cases ContactWidget.kept trimmed _ move <;> rfl

end

end ContactWidget

/-- Over every run of a dialog of contacts, what is added has a new identifier, and what is updated
has that of the contact shown last only until it is first taken from the fields. -/
theorem contact_edits_identified (trimmed : Str → Str) (widget : ContactWidget)
    (unshown : widget.mContact = none) (moves : List ContactWidget.Move) (click : SettingsClick)
    (answers : SettingsAnswers Contact Str)
    (used : Run.Along (Settings.next (ContactWidget.ops trimmed)) Settings.IsUsed (.initial widget)
      (moves ++ [.click click answers])) :
    let settings := Run.after (Settings.next (ContactWidget.ops trimmed)) (.initial widget) moves
    ∃ asked : Option (SettingsRequest Contact),
      (settings.next (ContactWidget.ops trimmed) (.click click answers)).requests =
        settings.requests ++ asked.toList ∧
      ∀ request ∈ asked,
        request.IsIdentified answers.world (ContactWidget.lastKept trimmed widget moves) := by
  intro settings
  obtain ⟨before, now, -⟩ := (Run.along_append _ _ _ _).mp used
  have kept := ContactWidget.isKept_after unshown before now.1
  obtain ⟨-, acts⟩ := Settings.acts_after _ widget used
  obtain ⟨asked, requests, suits⟩ := acts.requests
  refine ⟨asked, requests, ?_⟩
  intro request member
  obtain ⟨suited, handed⟩ := suits request member
  have handed := handed click answers rfl
  cases request with
  | add contact =>
    have id := ContactWidget.id_of_handed handed
    rwa [kept.add suited] at id
  | update contact =>
    have id := ContactWidget.id_of_handed handed
    rwa [kept.mContact] at id
  | remove id => trivial

namespace Sample

/-- The fields before a contact is shown, with one channel. -/
def contactWidget : ContactWidget where
  contactAdress := []
  contactName := []
  publicKey := []
  channelMonikers := [⟨str "mail", [], .connected, some ⟨fun _ => [], id⟩⟩]
  currentIndex := some 0
  enabled := true
  mContact := none

/-- A storage that has a contact for every identifier. -/
def contactAnswers (uiid : Str) : SettingsAnswers Contact Str where
  get id := .ok ⟨str "mail", str "Peer", str "peer@mail", id, str "key"⟩
  add _ := .ok ()
  update _ := .ok ()
  remove _ := .ok ()
  ask := true
  world := uiid

/-- A contact is changed and saved, and is about to be saved again. -/
def contactMoves : List ContactWidget.Move :=
  [.click (.elementsView (str "a")) (contactAnswers (str "x")),
    .click .changeAction (contactAnswers (str "x")), .click .saveAction (contactAnswers (str "x")),
    .click .changeAction (contactAnswers (str "x"))]

end Sample

/-- The contact is updated under its own identifier at first, and then under a new one. -/
theorem sample_contact_edits_identified :
    let settings := Run.after (Settings.next (ContactWidget.ops id)) (.initial Sample.contactWidget)
      Sample.contactMoves
    ∃ asked : Option (SettingsRequest Contact),
      (settings.next (ContactWidget.ops id)
        (.click .saveAction (Sample.contactAnswers (str "y")))).requests =
        settings.requests ++ asked.toList ∧
      ∀ request ∈ asked, request.IsIdentified (str "y")
        (ContactWidget.lastKept id Sample.contactWidget Sample.contactMoves) := by
  apply contact_edits_identified id Sample.contactWidget rfl Sample.contactMoves .saveAction
    (Sample.contactAnswers (str "y"))
  exact ⟨⟨rfl, trivial⟩, ⟨rfl, rfl⟩, ⟨rfl, rfl⟩, ⟨rfl, rfl⟩, ⟨rfl, rfl⟩, trivial⟩

end SecureDialogues
