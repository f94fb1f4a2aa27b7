import SecureDialogues.Gui.BaseSettingsDialog
import SecureDialogues.Gui.ListModels
import SecureDialogues.Lib.Table
import SecureDialogues.Plugins.ConnectionWidgets

/-!
# The fields of a connection

`ConnectionInfoWidget` (`gui/src/widgets/connectioninfowidget.cpp`) shows the name of a connection, its
type and the widgets of the plugins, one behind the other. The list of types begins with an empty one
(`connectioninfowidget.ui:79-85`), so that the widget of a plugin is found one place before its type.
-/

namespace SecureDialogues

open Text Effect

variable {i : Nat}

/-- `ConnectionInfoWidget` (`connectioninfowidget.h:88-90`) with its fields, what its plugins have
used libcurl for, and what the status label shows. -/
structure ConnectionInfoWidget (i : Nat) where
  connectionName : Str
  nameEnabled : Bool
  connectionType : Int
  fields : PluginFields
  enabled : Bool
  statusText : Option (ChannelStatus × Str)
  uses : List GmailUse
  mInfo : Option (ConnectionHolder i)
  mCachedElements : Table (ChannelStatus × Str)

/-- What else happens to the widget: the user edits it, and a channel reports. -/
inductive ConnectionInfoEvent where
  | connectionName (text : Str)
  | connectionType (index : Nat)
  | fields (fields : PluginFields)
  | status (status : ChannelStatus) (channelName message : Str)

/-- What a connection is made of besides the fields: what its members hold at first, and the world of
each of two fillings. -/
structure ConnectionWorld (i : Nat) where
  rest : Indeterminate i
  making : FillWorld
  filling : FillWorld

/-- The program as the widget has it: the plugins in the order of their identifiers, the texts of Qt
and the account at Google. -/
structure ConnectionSetup (i : Nat) where
  mWidgets : List Plugin
  distinct : mWidgets.Nodup
  qt : QtTexts i
  client : GoogleClient

namespace ConnectionInfoWidget

variable (setup : ConnectionSetup i) (widget : ConnectionInfoWidget i)

/-- `setCurrentIndex` of the types: none is chosen for an index out of their range. -/
def setCurrentIndex (index : Int) : ConnectionInfoWidget i :=
  { widget with
    connectionType := if 0 ≤ index ∧ index < setup.mWidgets.length + 1 then index else -1 }

/-- `getChannelInfo` (`connectioninfowidget.cpp:61-69`). -/
def getChannelInfo (channelName : Str) : ChannelStatus × Str :=
  widget.mCachedElements[channelName]?.getD (.undefined, [])

/-- The plugin info is shown in the widget of its plugin (`connectioninfowidget.cpp:121-136`). -/
def setPluginInfo (connInfo : PluginConnectionInfo i) : ConnectionInfoWidget i :=
  match setup.mWidgets.findIdx? fun plugin => connInfo.getPluginId = plugin.getId with
  | some distance =>
    { widget with
      fields := PluginWidgetWrapper.setConnectionInfo setup.qt widget.fields connInfo.plugin connInfo
      }.setCurrentIndex setup distance
  | none => widget

/-- `ConnectionInfoWidget::setElement` (`connectioninfowidget.cpp:117-144`). -/
def setElement (info : ConnectionHolder i) : ConnectionInfoWidget i :=
  let named := { widget with connectionName := cstr info.mConnName }
  let filled := match info.mPluginConnInfo with
    | some connInfo => named.setPluginInfo setup connInfo
    | none => named
  { filled with
    statusText := some (filled.getChannelInfo info.mConnName)
    mInfo := some info }

/-- The checks of `getElement` (`connectioninfowidget.cpp:147-160`). -/
def checks : List (Str × Bool) :=
  [(str "Connection type required!", widget.connectionType ≠ 0),
    (str "Field 'Connection name' should be completed",
      !widget.nameEnabled || widget.connectionName ≠ [])]

/-- `mWidgets.at` for the chosen type (`connectioninfowidget.cpp:162-163`). -/
def chosen : Except Str Plugin :=
  if 0 < widget.connectionType then
    match setup.mWidgets[(widget.connectionType - 1).toNat]? with
    | some plugin => .ok plugin
    | none => .error (str "out of range")
  else .error (str "out of range")

/-- The element of `getElement` (`connectioninfowidget.cpp:146-172`). -/
def made (world : ConnectionWorld i) : Eff (List GmailUse) Str (ConnectionHolder i) := do
  Eff.readsOr fun _ => WigetUtils.test widget.checks
  let plugin ← Eff.readsOr fun _ => widget.chosen setup
  let connHolder ← match widget.mInfo with
    | some info => pure info
    | none => do
      let connInfo ← PluginWidgetWrapper.makeConnection setup.qt setup.client world.rest world.making
        widget.fields plugin
      pure ⟨widget.connectionName, connInfo⟩
  let connInfo ← PluginWidgetWrapper.fillConnection setup.qt setup.client world.filling
    widget.fields plugin connHolder.mPluginConnInfo
  return { connHolder with mPluginConnInfo := connInfo }

/-- `ConnectionInfoWidget::getElement`; the info is forgotten when nothing is thrown. -/
def getElement (world : ConnectionWorld i) :
    Except Str (ConnectionHolder i) × ConnectionInfoWidget i :=
  match widget.made setup world widget.uses with
  | (.ok holder, uses) => (.ok holder, { widget with uses, mInfo := none })
  | (.error (.thrown what), uses) => (.error what, { widget with uses })
  | (.error .terminated, uses) => (.error [], { widget with uses })

/-- `updateChannelStatus` (`connectioninfowidget.cpp:174-187`). -/
def updateChannelStatus (status : ChannelStatus) (channelName message : Str) :
    ConnectionInfoWidget i :=
  let elem := (status, cstr message)
  let cached := { widget with mCachedElements := widget.mCachedElements.insert channelName elem }
  if (widget.mInfo.map (·.mConnName)) = some channelName then
    { cached with statusText := some elem }
  else cached

/-- `actionCleare` (`connectioninfowidget.cpp:189-197`). -/
def actionCleare : ConnectionInfoWidget i :=
  { { widget with connectionName := [] }.setCurrentIndex setup 1 with
    fields := PluginWidgetWrapper.cleared
    statusText := none
    mInfo := none }

/-- `actionEnable` (`connectioninfowidget.cpp:199-205`). -/
def actionEnable : ConnectionInfoWidget i :=
  { widget with enabled := true, nameEnabled := widget.mInfo.isNone }

/-- `actionDisable` (`connectioninfowidget.cpp:207-209`). -/
def actionDisable : ConnectionInfoWidget i := { widget with enabled := false, nameEnabled := false }

/-- A field is edited only while it is enabled, and the widget hears of three kinds of reports
(`builders.cpp:128-133`). -/
def happens : ConnectionInfoEvent → ConnectionInfoWidget i
  | .connectionName text =>
    if widget.nameEnabled then { widget with connectionName := text } else widget
  | .connectionType index => if widget.enabled then widget.setCurrentIndex setup index else widget
  | .fields fields => if widget.enabled then { widget with fields } else widget
  | .status status channelName message =>
    if status = .undefined ∨ status = .badChannel then widget
    else widget.updateChannelStatus status channelName message

/-- The widget as one of a settings dialog. -/
def ops : SettingsWidget (ConnectionInfoWidget i) (ConnectionHolder i) (ConnectionWorld i)
    ConnectionInfoEvent where
  setElement info widget := widget.setElement setup info
  getElement world widget := widget.getElement setup world
  actionCleare widget := widget.actionCleare setup
  actionEnable := actionEnable
  actionDisable := actionDisable
  happens event widget := widget.happens setup event

/-- A move of a dialog of connections. -/
abbrev Move (i : Nat) := SettingsMove (ConnectionHolder i) (ConnectionWorld i) ConnectionInfoEvent

end ConnectionInfoWidget

/-! ## What is saved of a connection -/

/-- Two tokens have been granted for the same form, one after the other. -/
def RedeemedTwice (form : List (Str × Str)) (uses uses' : List GmailUse) : Prop :=
  ∃ first second text text' body body', uses' = uses ++
      [.token first (.ok (httpCodeOk, text)) (.ok body),
        .token second (.ok (httpCodeOk, text')) (.ok body')] ∧
    first.form = form ∧ second.form = form ∧ body.Grants ∧ body'.Grants

namespace ConnectionInfoWidget

variable (setup : ConnectionSetup i) (widget : ConnectionInfoWidget i)

/-- What a move shows in the fields. Once another type is chosen, none is known to be shown. -/
def shown (settings : Settings (ConnectionInfoWidget i) (ConnectionHolder i)) :
    Move i → Option (Option (ConnectionHolder i))
  | .happens (.connectionType _) => if settings.widget.enabled then some none else none
  | move => settings.shows move

/-- The connection that was shown last, unless another type has been chosen since. -/
def lastShown (moves : List (Move i)) :
    Option (ConnectionHolder i) :=
  (Run.latest (Settings.next (ops setup)) shown (.initial widget) moves).join

/-- The widget keeps no other connection than the shown one, and the type before the one of its
plugin is chosen. -/
structure Holds (holder : ConnectionHolder i) : Prop where
  mInfo : ∀ info ∈ widget.mInfo, info = holder
  connectionType : ∀ connInfo ∈ holder.mPluginConnInfo, ∀ place : Nat,
    setup.mWidgets[place]? = some connInfo.plugin → widget.connectionType = place

section

variable {setup} {widget} {holder : ConnectionHolder i}

theorem Holds.of_kept {widget' : ConnectionInfoWidget i} (holds : widget.Holds setup holder)
    (kept : ∀ info ∈ widget'.mInfo, info ∈ widget.mInfo)
    (same : widget'.connectionType = widget.connectionType) : widget'.Holds setup holder where
  mInfo info member := holds.mInfo info (kept info member)
  connectionType connInfo filled place found :=
    same.trans (holds.connectionType connInfo filled place found)

/-- The widget of a plugin is found at its own place. -/
theorem findIdx?_getPluginId {connInfo : PluginConnectionInfo i} {place : Nat}
    (found : setup.mWidgets[place]? = some connInfo.plugin) :
    (setup.mWidgets.findIdx? fun plugin => connInfo.getPluginId = plugin.getId) = some place := by
  obtain ⟨inside, eq⟩ := List.getElem?_eq_some_iff.mp found
  refine List.findIdx?_eq_some_iff_getElem.mpr ⟨inside, ?_, ?_⟩
  · rw [eq]
    exact decide_eq_true rfl
  · intro before less same
    have same := Plugin.getId_inj (of_decide_eq_true same)
    rw [← eq] at same
    exact less.ne ((setup.distinct.getElem_inj_iff).mp same.symm)

variable (setup widget) in
/-- A connection that is shown leaves the type before its own chosen. -/
theorem holds_setElement (info : ConnectionHolder i) :
    (widget.setElement setup info).Holds setup info where
  mInfo info' member := (Option.some.inj member).symm
  connectionType connInfo filled place found := by
    have inside : place < setup.mWidgets.length := (List.getElem?_eq_some_iff.mp found).1
    simp only [setElement, Option.mem_def.mp filled, setPluginInfo, findIdx?_getPluginId found,
      setCurrentIndex]
    rw [if_pos (by omega)]

variable (setup) in
theorem getElement_kept (world : ConnectionWorld i) (widget : ConnectionInfoWidget i) :
    (∀ info ∈ (widget.getElement setup world).2.mInfo, info ∈ widget.mInfo) ∧
      (widget.getElement setup world).2.connectionType = widget.connectionType := by
  rw [getElement]
  split
  · exact ⟨nofun, rfl⟩
  · exact ⟨fun _ => id, rfl⟩
  · exact ⟨fun _ => id, rfl⟩

/-- Nothing but the choice of a type changes what the widget holds. -/
theorem Holds.happens (holds : widget.Holds setup holder) {event : ConnectionInfoEvent}
    (other : ∀ index, event ≠ .connectionType index) :
    (widget.happens setup event).Holds setup holder := by
  cases event with
  | connectionName text =>
    rw [ConnectionInfoWidget.happens]
    split
    · exact holds.of_kept (fun _ kept => kept) rfl
    · exact holds
  | connectionType index => exact absurd rfl (other index)
  | fields fields =>
    rw [ConnectionInfoWidget.happens]
    split
    · exact holds.of_kept (fun _ kept => kept) rfl
    · exact holds
  | status status channelName message =>
    rw [ConnectionInfoWidget.happens, updateChannelStatus]
    dsimp only
    split
    · exact holds
    · split <;> exact holds.of_kept (fun _ kept => kept) rfl

theorem chosen_eq_ok {plugin : Plugin} (chosen : widget.chosen setup = .ok plugin) :
    0 < widget.connectionType ∧ setup.mWidgets[(widget.connectionType - 1).toNat]? = some plugin := by
  rw [ConnectionInfoWidget.chosen] at chosen
  split at chosen
  · rename_i positive
    refine ⟨positive, ?_⟩
    split at chosen
    · rename_i plugin' found
      cases chosen
      exact found
    · cases chosen
  · cases chosen

/-- What is handed over has been filled by the chosen plugin, and is the kept connection or one that
this plugin has made before. -/
theorem made_of_handed {settings : Settings (ConnectionInfoWidget i) (ConnectionHolder i)}
    {world : ConnectionWorld i} {saved : ConnectionHolder i}
    (handed : settings.handed (ops setup) world = some saved) :
    ∃ plugin connHolder uses, settings.widget.chosen setup = .ok plugin ∧
      PluginWidgetWrapper.fillConnection setup.qt setup.client world.filling settings.widget.fields
        plugin connHolder.mPluginConnInfo uses =
          (.ok saved.mPluginConnInfo, (settings.widget.getElement setup world).2.uses) ∧
      saved.mConnName = connHolder.mConnName ∧
      (settings.widget.mInfo = some connHolder ∨ (settings.widget.mInfo = none ∧
        PluginWidgetWrapper.makeConnection setup.qt setup.client world.rest world.making
          settings.widget.fields plugin settings.widget.uses =
            (.ok connHolder.mPluginConnInfo, uses))) := by
  change (settings.widget.getElement setup world).1.toOption = some saved at handed
  rw [getElement] at handed ⊢
  split at handed
  · rename_i holder uses' returned
    cases handed
    obtain ⟨_, _, tested, made⟩ := Eff.bind_eq_ok.mp returned
    obtain ⟨plugin, _, picked, made⟩ := Eff.bind_eq_ok.mp made
    obtain ⟨-, rfl⟩ := Eff.readsOr_eq_ok.mp tested
    obtain ⟨chosen, rfl⟩ := Eff.readsOr_eq_ok.mp picked
    cases known : settings.widget.mInfo with
    | some info =>
      rw [known] at made
      obtain ⟨_, _, ⟨⟩, made⟩ := Eff.bind_eq_ok.mp made
      obtain ⟨connInfo, _, filled, ⟨⟩⟩ := Eff.bind_eq_ok.mp made
      exact ⟨plugin, info, _, chosen, filled, rfl, .inl rfl⟩
    | none =>
      rw [known] at made
      obtain ⟨connInfo, _, new, made⟩ := Eff.bind_eq_ok.mp made
      obtain ⟨_, _, ⟨⟩, made⟩ := Eff.bind_eq_ok.mp made
      obtain ⟨_, _, filled, ⟨⟩⟩ := Eff.bind_eq_ok.mp made
      exact ⟨plugin, ⟨_, connInfo⟩, _, chosen, filled, rfl, .inr ⟨rfl, new⟩⟩
  · cases handed
  · cases handed

/-- What the chosen type makes of a connection: one whose own plugin is not chosen stays as it is, and
a new one is not of its plugin. -/
theorem saved_of_handed {settings : Settings (ConnectionInfoWidget i) (ConnectionHolder i)}
    {world : ConnectionWorld i} {saved : ConnectionHolder i}
    (handed : settings.handed (ops setup) world = some saved)
    (holds : settings.widget.Holds setup holder) {connInfo : PluginConnectionInfo i}
    (filled : holder.mPluginConnInfo = some connInfo) {place : Nat}
    (found : setup.mWidgets[place]? = some connInfo.plugin) :
    0 < place ∧ (saved = holder ∨
      ∀ other ∈ saved.mPluginConnInfo, other.plugin ≠ connInfo.plugin) := by
  obtain ⟨plugin, connHolder, uses, chosen, done, named, source⟩ := made_of_handed handed
  obtain ⟨positive, own⟩ := chosen_eq_ok chosen
  rw [holds.connectionType connInfo filled place found] at positive own
  have other : connInfo.plugin ≠ plugin := by
    rintro rfl
    obtain ⟨inside, eq⟩ := List.getElem?_eq_some_iff.mp found
    obtain ⟨inside', eq'⟩ := List.getElem?_eq_some_iff.mp own
    have same := (setup.distinct.getElem_inj_iff).mp (eq.trans eq'.symm)
    omega
  refine ⟨by omega, ?_⟩
  rcases source with known | ⟨-, new⟩
  · left
    obtain rfl := holds.mInfo connHolder known
    rw [filled] at done
    have unchanged := PluginWidgetWrapper.fillConnection_other other done
    rw [← filled] at unchanged
    cases saved
    cases connHolder
    cases named
    cases unchanged
    rfl
  · right
    have made := PluginWidgetWrapper.fillConnection_plugin new
    obtain ⟨connInfo', eq, own⟩ := Option.map_eq_some_iff.mp made
    rw [eq] at done
    have kept := PluginWidgetWrapper.fillConnection_plugin done
    intro other' member same
    rw [Option.mem_def.mp member, Option.map_some, Option.some_inj] at kept
    exact other (same.symm.trans (kept.trans (own.trans (Plugin.plugin_makeConnInfo plugin _))))

variable {settings : Settings (ConnectionInfoWidget i) (ConnectionHolder i)}
  {answers : SettingsAnswers (ConnectionHolder i) (ConnectionWorld i)}

theorem holds_disabled {last : Option (ConnectionHolder i)}
    (holds : ∀ holder ∈ last, settings.widget.Holds setup holder) :
    ∀ holder ∈ last, (settings.disabled (ops setup)).widget.Holds setup holder := by
  intro holder member
  exact (holds holder member).of_kept (fun _ => id) rfl

/-- What is found is shown, and nothing changes for what is not. -/
theorem holds_viewAt (id : Str) {last : Option (ConnectionHolder i)}
    (holds : ∀ holder ∈ last, settings.widget.Holds setup holder) :
    ∀ holder ∈ (((answers.get id).toOption.map some).getD last),
      (DialogWidgetGasket.viewAt (ops setup) answers id settings).widget.Holds setup holder := by
  rw [Settings.viewAt_widget]
  cases answers.get id with
  | ok element =>
    intro _ member
    cases member
    exact holds_setElement setup settings.widget element
  | error what => exact holds

theorem holds_update {last : Option (ConnectionHolder i)}
    (holds : ∀ holder ∈ last, settings.widget.Holds setup holder) :
    ∀ holder ∈ last,
      (DialogWidgetGasket.update (ops setup) answers settings).widget.Holds setup holder := by
  intro holder member
  obtain ⟨kept, same⟩ := getElement_kept setup answers.world settings.widget
  rw [Settings.update_widget]
  exact (holds holder member).of_kept kept same

/-- A new connection of Gmail has been filled twice, with the same code. -/
theorem redeemed_of_handed (smallId : setup.client.clientId.length < 2 ^ 31)
    (smallSecret : setup.client.clientSecret.length < 2 ^ 31)
    (smallCode : settings.widget.fields.gmail.pass.length < 2 ^ 31)
    (unknown : settings.widget.mInfo = none) {world : ConnectionWorld i}
    (making : world.making.IsUsual) (filling : world.filling.IsUsual)
    {saved : ConnectionHolder i} (handed : settings.handed (ops setup) world = some saved)
    (gmail : saved.mPluginConnInfo.map (·.plugin) = some .gmail) :
    RedeemedTwice (PluginWidgetWrapper.codeForm setup.client settings.widget.fields)
      settings.widget.uses (settings.widget.getElement setup world).2.uses := by
  obtain ⟨plugin, connHolder, uses, -, done, -, source⟩ := made_of_handed handed
  rcases source with known | ⟨-, new⟩
  · rw [unknown] at known
    cases known
  · have made := PluginWidgetWrapper.fillConnection_plugin new
    obtain ⟨connInfo, eq, own⟩ := Option.map_eq_some_iff.mp made
    rw [eq] at done
    have kept := PluginWidgetWrapper.fillConnection_plugin done
    rw [gmail, Option.some_inj, own, Plugin.plugin_makeConnInfo] at kept
    subst kept
    have small := PluginWidgetWrapper.small_codeForm smallId smallSecret smallCode
    obtain ⟨first, text, body, rfl, form, grants⟩ :=
      PluginWidgetWrapper.fillConnection_gmail making small new
    obtain ⟨second, text', body', grown, form', grants'⟩ :=
      PluginWidgetWrapper.fillConnection_gmail filling small done
    exact ⟨first, second, text, text', body, body', grown.trans (List.append_assoc _ _ _), form,
      form', grants, grants'⟩

variable (setup) in
/-- What a run of the dialog keeps of the connection shown last, if one is. -/
structure Shows (settings : Settings (ConnectionInfoWidget i) (ConnectionHolder i))
    (last : Option (ConnectionHolder i)) : Prop where
  proper : settings.dialog.IsProper
  holds : ∀ holder ∈ last, settings.widget.Holds setup holder
  add : settings.dialog.mCurrentState = .add → last = none ∧ settings.widget.mInfo = none

theorem shown_of_cancels {click : SettingsClick}
    (cancels : click = .cancelAction ∨ click = .closeButton) :
    shown settings (.click click answers) = settings.shownByCancel answers := by
  rcases cancels with rfl | rfl <;> rfl

theorem acts_holds {move : Move i} {last : Option (ConnectionHolder i)}
    {settings' : Settings (ConnectionInfoWidget i) (ConnectionHolder i)}
    (shows : Shows setup settings last) (acts : settings.Acts (ops setup) move settings')
    (running : settings'.running = true) :
    ∀ holder ∈ (shown settings move).getD last, settings'.widget.Holds setup holder := by
  cases acts with
  | happens event =>
    have kept (other : ∀ index, event ≠ .connectionType index) :
        ∀ holder ∈ last, (settings.widget.happens setup event).Holds setup holder :=
      fun holder member => (shows.holds holder member).happens other
    cases event with
    | connectionType index =>
      cases enabled : settings.widget.enabled with
      | true =>
        rw [shown, enabled]
        intro _ member
        cases member
      | false =>
        simp only [shown, ops, happens, enabled]
        exact shows.holds
    | _ => exact kept (by rintro _ ⟨⟩)
  | view answers id => exact holds_viewAt id (holds_disabled shows.holds)
  | start answers =>
    intro _ member
    cases member
  | change answers id selected state =>
    intro holder member
    exact (shows.holds holder member).of_kept (fun _ kept => kept) rfl
  | delete answers id selected state =>
    intro _ member
    cases member
  | fail answers id selected state => cases running
  | empty answers click cancels state =>
    rw [shown_of_cancels cancels, Settings.shownByCancel, state]
    intro _ member
    cases member
  | restore answers click cancels id selected state =>
    rw [shown_of_cancels cancels, Settings.shownByCancel, state, selected]
    apply holds_disabled
    exact holds_viewAt id shows.holds
  | close answers state =>
    rw [shown_of_cancels (.inr rfl), Settings.shownByCancel, state]
    exact shows.holds
  | add answers state =>
    rw [(shows.add state).1]
    intro _ member
    cases member
  | save answers id selected state =>
    apply holds_disabled
    exact holds_update shows.holds

variable (setup) in
theorem happens_mInfo (widget : ConnectionInfoWidget i) (event : ConnectionInfoEvent) :
    (widget.happens setup event).mInfo = widget.mInfo := by
  rw [happens.eq_def]
  cases event with
  | status status channelName message =>
    dsimp only [updateChannelStatus]
    split
    · rfl
    · split <;> rfl
  | _ =>
    dsimp only
    split <;> rfl

/-- A dialog that turns to a new connection shows none. -/
theorem acts_add {move : Move i} {last : Option (ConnectionHolder i)}
    {settings' : Settings (ConnectionInfoWidget i) (ConnectionHolder i)}
    (shows : Shows setup settings last) (acts : settings.Acts (ops setup) move settings')
    (running : settings'.running = true) (state' : settings'.dialog.mCurrentState = .add) :
    (shown settings move).getD last = none ∧ settings'.widget.mInfo = none := by
  cases acts with
  | happens event =>
    obtain ⟨unshown, unknown⟩ := shows.add state'
    refine ⟨?_, (happens_mInfo setup _ event).trans unknown⟩
    rw [unshown]
    cases event with
    | connectionType index =>
      rw [shown]
      split <;> rfl
    | _ => rfl
  | view answers id => simp at state'
  | start answers => exact ⟨rfl, rfl⟩
  | change answers id selected state => simp at state'
  | delete answers id selected state => exact ⟨rfl, rfl⟩
  | fail answers id selected state => cases running
  | empty answers click cancels state =>
    rw [shown_of_cancels cancels, Settings.shownByCancel, state]
    exact ⟨rfl, rfl⟩
  | restore answers click cancels id selected state => simp at state'
  | close answers state => simp [state] at state'
  | add answers state =>
    obtain ⟨unshown, unknown⟩ := shows.add state
    refine ⟨unshown, ?_⟩
    rcases Settings.add_widget (ops setup) answers settings with taken | ⟨-, cleared⟩
    · rw [taken, Option.eq_none_iff_forall_not_mem]
      intro info member
      have kept := (getElement_kept setup answers.world settings.widget).1 info member
      rw [unknown] at kept
      cases kept
    · rw [cleared]
      rfl
  | save answers id selected state => simp at state'

variable (setup) in
theorem shows_after {widget : ConnectionInfoWidget i} (unshown : widget.mInfo = none)
    {moves : List (Move i)}
    (used : Run.Along (Settings.next (ops setup)) Settings.IsUsed (.initial widget) moves) :
    (Run.after (Settings.next (ops setup)) (.initial widget) moves).running = true →
      Shows setup (Run.after (Settings.next (ops setup)) (.initial widget) moves)
        (lastShown setup widget moves) := by
  let I (moves : List (Move i))
      (settings : Settings (ConnectionInfoWidget i) (ConnectionHolder i)) : Prop :=
    settings.running = true → Shows setup settings (lastShown setup widget moves)
  have start : I [] (.initial widget) := by
    intro _
    refine ⟨BaseSettingsDialog.isProper_initial, ?_, fun _ => ⟨rfl, unshown⟩⟩
    intro _ member
    cases member
  refine Run.history_after (I := I) start ?_ used
  intro before move keeps used
  have shows := keeps used.1
  obtain ⟨settings', performed, acts⟩ := Settings.acts shows.proper used
  have now : lastShown setup widget (before ++ [move]) =
      (shown (Run.after (Settings.next (ops setup)) (.initial widget) before) move).getD
        (lastShown setup widget before) := by
    rw [lastShown, lastShown, Run.latest_concat]
    cases shown _ move <;> rfl
  rw [Settings.next, performed]
  intro running
  rw [now]
  exact ⟨acts.isProper shows.proper running, acts_holds shows acts running,
    acts_add shows acts running⟩

end

end ConnectionInfoWidget

/-- Over every run of a dialog of connections, as long as the user does not choose another type, an
update leaves the shown connection as it was or puts one of another plugin in its place, and a
connection of the first plugin is not updated at all. -/
theorem connection_edits_lost (setup : ConnectionSetup i) (widget : ConnectionInfoWidget i)
    (unshown : widget.mInfo = none) (moves : List (ConnectionInfoWidget.Move i)) (click : SettingsClick)
    (answers : SettingsAnswers (ConnectionHolder i) (ConnectionWorld i))
    (used : Run.Along (Settings.next (ConnectionInfoWidget.ops setup)) Settings.IsUsed
      (.initial widget) (moves ++ [.click click answers]))
    {holder : ConnectionHolder i} {connInfo : PluginConnectionInfo i} {place : Nat}
    (shown : ConnectionInfoWidget.lastShown setup widget moves = some holder)
    (filled : holder.mPluginConnInfo = some connInfo)
    (found : setup.mWidgets[place]? = some connInfo.plugin) :
    let settings := Run.after (Settings.next (ConnectionInfoWidget.ops setup)) (.initial widget) moves
    ∃ asked : Option (SettingsRequest (ConnectionHolder i)),
      (settings.next (ConnectionInfoWidget.ops setup) (.click click answers)).requests =
        settings.requests ++ asked.toList ∧
      ∀ saved, asked = some (.update saved) → 0 < place ∧
        (saved = holder ∨ ∀ other ∈ saved.mPluginConnInfo, other.plugin ≠ connInfo.plugin) := by
  intro settings
  obtain ⟨before, now, -⟩ := (Run.along_append _ _ _ _).mp used
  have shows := ConnectionInfoWidget.shows_after setup unshown before now.1
  obtain ⟨-, acts⟩ := Settings.acts_after _ widget used
  obtain ⟨asked, requests, suits⟩ := acts.requests
  refine ⟨asked, requests, ?_⟩
  rintro saved rfl
  obtain ⟨-, handed⟩ := suits (.update saved) rfl
  exact ConnectionInfoWidget.saved_of_handed (handed click answers rfl) (shows.holds holder shown)
    filled found

namespace Sample

/-- The three plugins, and texts that Qt leaves alone. -/
def connectionSetup : ConnectionSetup 32 where
  mWidgets := [.vk, .gmail, .smtp]
  distinct := by decide
  qt := ⟨id, fun _ => none, fun _ => [], fun _ => true, fun url => some (url, url)⟩
  client := googleClient

/-- The widget before a connection is shown. -/
def connectionInfoWidget : ConnectionInfoWidget 32 where
  connectionName := []
  nameEnabled := true
  connectionType := 1
  fields := PluginWidgetWrapper.cleared
  enabled := true
  statusText := none
  uses := []
  mInfo := none
  mCachedElements := ∅

/-- What is stored of the connection of Gmail. -/
def storedInfo : PluginConnectionInfo 32 := .gmail ⟨str "me@mail", str "T"⟩

/-- A service that grants a token for any code, however often. -/
def redeemingWorld : FillWorld where
  google :=
    { grantingWorld with
      parse := fun _ => .ok (.object [(str "access_token", .string (str "A")),
        (str "refresh_token", .string (str "R")), (str "token_type", .string (str "Bearer")),
        (str "expires_in", .number 3600)]) }
  what _ := str "error"

/-- A container that has that connection under every identifier. -/
def connectionAnswers : SettingsAnswers (ConnectionHolder 32) (ConnectionWorld 32) where
  get _ := .ok storedConnection
  add _ := .ok ()
  update _ := .ok ()
  remove _ := .ok ()
  ask := true
  world := ⟨⟨false, 0, 0⟩, redeemingWorld, redeemingWorld⟩

/-- The connection is viewed, and its address is edited; the widget of VK has an address too. -/
def connectionMoves : List (ConnectionInfoWidget.Move 32) :=
  [.click (.elementsView (str "mail")) connectionAnswers, .click .changeAction connectionAnswers,
    .happens (.fields { PluginWidgetWrapper.cleared with
      gmail := ⟨str "you@mail", str "code"⟩
      vkOauthUrl := str "url" })]

end Sample

/-- The connection is updated with its old address. -/
theorem sample_connection_edits_lost :
    let settings := Run.after (Settings.next (ConnectionInfoWidget.ops Sample.connectionSetup))
      (.initial Sample.connectionInfoWidget) Sample.connectionMoves
    ∃ asked : Option (SettingsRequest (ConnectionHolder 32)),
      (settings.next (ConnectionInfoWidget.ops Sample.connectionSetup)
        (.click .saveAction Sample.connectionAnswers)).requests =
        settings.requests ++ asked.toList ∧
      ∀ saved, asked = some (.update saved) → 0 < 1 ∧
        (saved = Sample.storedConnection ∨
          ∀ other ∈ saved.mPluginConnInfo, other.plugin ≠ Sample.storedInfo.plugin) := by
  apply connection_edits_lost Sample.connectionSetup Sample.connectionInfoWidget rfl
    Sample.connectionMoves .saveAction Sample.connectionAnswers
  · exact ⟨⟨rfl, trivial⟩, ⟨rfl, rfl⟩, ⟨rfl, trivial⟩, ⟨rfl, rfl⟩, trivial⟩
  · rfl
  · rfl
  · rfl

/-- Over every run of a dialog of connections, a connection of Gmail is added only after its code has
been redeemed twice, which a service that accepts a code once does not grant. -/
theorem gmail_code_redeemed_twice (setup : ConnectionSetup i)
    (smallId : setup.client.clientId.length < 2 ^ 31)
    (smallSecret : setup.client.clientSecret.length < 2 ^ 31) (widget : ConnectionInfoWidget i)
    (unshown : widget.mInfo = none) (moves : List (ConnectionInfoWidget.Move i))
    (click : SettingsClick) (answers : SettingsAnswers (ConnectionHolder i) (ConnectionWorld i))
    (making : answers.world.making.IsUsual) (filling : answers.world.filling.IsUsual)
    (used : Run.Along (Settings.next (ConnectionInfoWidget.ops setup)) Settings.IsUsed
      (.initial widget) (moves ++ [.click click answers])) :
    let settings := Run.after (Settings.next (ConnectionInfoWidget.ops setup)) (.initial widget) moves
    let settings' := settings.next (ConnectionInfoWidget.ops setup) (.click click answers)
    settings.widget.fields.gmail.pass.length < 2 ^ 31 →
    ∃ asked : Option (SettingsRequest (ConnectionHolder i)),
      settings'.requests = settings.requests ++ asked.toList ∧
      ∀ added, asked = some (.add added) → added.mPluginConnInfo.map (·.plugin) = some .gmail →
        RedeemedTwice (PluginWidgetWrapper.codeForm setup.client settings.widget.fields)
          settings.widget.uses settings'.widget.uses := by
  intro settings settings' smallCode
  obtain ⟨before, now, -⟩ := (Run.along_append _ _ _ _).mp used
  have shows := ConnectionInfoWidget.shows_after setup unshown before now.1
  obtain ⟨-, acts⟩ := Settings.acts_after _ widget used
  obtain ⟨asked, requests, suits⟩ := acts.requests
  refine ⟨asked, requests, ?_⟩
  rintro added rfl gmail
  obtain ⟨state, handed⟩ := suits (.add added) rfl
  have redeemed := ConnectionInfoWidget.redeemed_of_handed smallId smallSecret smallCode
    (shows.add state).2 making filling (handed click answers rfl) gmail
  have same : settings' = _ := acts.eq_add answers requests
  rw [same]
  rcases Settings.add_widget _ answers settings with taken | ⟨-, cleared⟩
  · rwa [taken]
  · rwa [cleared]

namespace Sample

theorem redeemingWorld_isUsual : redeemingWorld.IsUsual where
  escapes := shows_gmailWorld.escapes
  named _ := List.cons_ne_nil _ _

/-- The fields are completed for a new connection of Gmail. -/
def newConnectionMoves : List (ConnectionInfoWidget.Move 32) :=
  [.happens (.connectionName (str "mail")), .happens (.connectionType 2),
    .happens (.fields { PluginWidgetWrapper.cleared with
      gmail := ⟨str "me@mail", str "code"⟩ })]

def newConnection : ConnectionHolder 32 := ⟨str "mail", some (.gmail ⟨str "me@mail", str "R"⟩)⟩

end Sample

/-- A connection is added, for two tokens. -/
theorem sample_gmail_code_redeemed_twice :
    let settings := Run.after (Settings.next (ConnectionInfoWidget.ops Sample.connectionSetup))
      (.initial Sample.connectionInfoWidget) Sample.newConnectionMoves
    let settings' := settings.next (ConnectionInfoWidget.ops Sample.connectionSetup)
      (.click .saveAction Sample.connectionAnswers)
    settings'.requests = [.add Sample.newConnection] ∧
      RedeemedTwice
        (PluginWidgetWrapper.codeForm Sample.connectionSetup.client settings.widget.fields)
        settings.widget.uses settings'.widget.uses := by
  have usual := Sample.redeemingWorld_isUsual
  obtain ⟨asked, requests, redeemed⟩ := gmail_code_redeemed_twice Sample.connectionSetup (by decide)
    (by decide) Sample.connectionInfoWidget rfl Sample.newConnectionMoves .saveAction
    Sample.connectionAnswers usual usual
    ⟨⟨rfl, trivial⟩, ⟨rfl, trivial⟩, ⟨rfl, trivial⟩, ⟨rfl, rfl⟩, trivial⟩ (by decide)
  refine ⟨rfl, redeemed Sample.newConnection ?_ rfl⟩
  cases asked with
  | none => cases requests
  | some request => exact congrArg some (List.singleton_inj.mp requests).symm

end SecureDialogues
