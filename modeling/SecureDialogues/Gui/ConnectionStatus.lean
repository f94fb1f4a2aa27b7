import SecureDialogues.Gui.ConnectionInfoWidget

/-!
# The status of a connection

`ConnectionInfoWidget` caches what the channels report and shows it for the connection that it keeps
(`connectioninfowidget.cpp:61-115`, `174-187`). A label is right as long as what it shows is what is
cached.
-/

namespace SecureDialogues

open Text Effect

variable {i : Nat}

namespace ConnectionInfoWidget

variable (setup : ConnectionSetup i) (widget : ConnectionInfoWidget i)

/-- What a move reports of a channel. -/
def reported (channelName : Str) : Move i → Option (ChannelStatus × Str)
  | .happens (.status status name message) =>
    if ¬ (status = .undefined ∨ status = .badChannel) ∧ name = channelName then
      some (status, cstr message)
    else none
  | _ => none

/-- What has been reported of a channel last. -/
def lastReport (moves : List (Move i)) (channelName : Str) : Option (ChannelStatus × Str) :=
  Run.latest (Settings.next (ops setup)) (fun _ => reported channelName) (.initial widget) moves

/-- The status text is what is cached of the connection that is kept. -/
def IsLabelled : Prop :=
  ∀ info ∈ widget.mInfo, widget.statusText = some (widget.getChannelInfo info.mConnName)

/-- A step that hears of no channel. -/
structure Ignores (widget widget' : ConnectionInfoWidget i) : Prop where
  cached : widget'.mCachedElements = widget.mCachedElements
  labelled : widget.IsLabelled → widget'.IsLabelled

section

variable {setup} {widget} {widget' widget'' : ConnectionInfoWidget i}

theorem Ignores.trans (first : widget.Ignores widget') (second : widget'.Ignores widget'') :
    widget.Ignores widget'' where
  cached := second.cached.trans first.cached
  labelled labelled := second.labelled (first.labelled labelled)

theorem ignores_of_kept (kept : ∀ info ∈ widget'.mInfo, info ∈ widget.mInfo)
    (cached : widget'.mCachedElements = widget.mCachedElements)
    (text : widget'.statusText = widget.statusText) : widget.Ignores widget' where
  cached := cached
  labelled := by
    intro labelled info member
    rw [text, labelled info (kept info member), getChannelInfo, getChannelInfo, cached]

theorem ignores_setElement (info : ConnectionHolder i) :
    widget.Ignores (widget.setElement setup info) where
  cached := by
    dsimp only [setElement]
    split
    · dsimp only [setPluginInfo]
      split <;> rfl
    · rfl
  labelled := by
    rintro - _ ⟨⟩
    rfl

theorem ignores_getElement (world : ConnectionWorld i) :
    widget.Ignores (widget.getElement setup world).2 := by
  rw [getElement]
  split
  · refine ignores_of_kept ?_ rfl rfl
    intro _ member
    cases member
  · exact ignores_of_kept (fun _ kept => kept) rfl rfl
  · exact ignores_of_kept (fun _ kept => kept) rfl rfl

theorem ignores_actionCleare : widget.Ignores (widget.actionCleare setup) where
  cached := rfl
  labelled := by
    rintro - _ ⟨⟩

theorem ignores_actionEnable : widget.Ignores widget.actionEnable :=
  ignores_of_kept (fun _ kept => kept) rfl rfl

theorem ignores_actionDisable : widget.Ignores widget.actionDisable :=
  ignores_of_kept (fun _ kept => kept) rfl rfl

variable {settings settings' : Settings (ConnectionInfoWidget i) (ConnectionHolder i)}
  {answers : SettingsAnswers (ConnectionHolder i) (ConnectionWorld i)}

variable (settings) in
theorem ignores_viewAt (id : Str) :
    settings.widget.Ignores (DialogWidgetGasket.viewAt (ops setup) answers id settings).widget := by
  rw [Settings.viewAt_widget]
  cases answers.get id with
  | ok element => exact ignores_setElement element
  | error what => exact ignores_of_kept (fun _ kept => kept) rfl rfl

/-- A click hears of no channel. -/
theorem ignores_click {click : SettingsClick}
    (acts : settings.Acts (ops setup) (.click click answers) settings') :
    settings.widget.Ignores settings'.widget := by
  cases acts with
  | view answers id =>
    refine Ignores.trans ?_ (ignores_viewAt _ id)
    exact ignores_actionDisable
  | start answers =>
    refine Ignores.trans ?_ ignores_actionEnable
    exact ignores_actionCleare
  | change answers id selected state => exact ignores_actionEnable
  | delete answers id selected state =>
    refine Ignores.trans ?_ ignores_actionEnable
    refine Ignores.trans ?_ ignores_actionCleare
    rw [Settings.removing_widget]
    exact ignores_of_kept (fun _ kept => kept) rfl rfl
  | fail answers id selected state =>
    dsimp only
    rw [Settings.removing_widget]
    exact ignores_of_kept (fun _ kept => kept) rfl rfl
  | empty answers click cancels state => exact ignores_actionCleare
  | restore answers click cancels id selected state =>
    refine Ignores.trans ?_ ignores_actionDisable
    exact ignores_viewAt (settings.turned (some id) .view) id
  | close answers state => exact ignores_of_kept (fun _ kept => kept) rfl rfl
  | add answers state =>
    rcases Settings.add_widget (ops setup) answers settings with taken | ⟨-, cleared⟩
    · rw [taken]
      exact ignores_getElement answers.world
    · rw [cleared]
      exact (ignores_getElement answers.world).trans ignores_actionCleare
  | save answers id selected state =>
    refine Ignores.trans ?_ ignores_actionDisable
    rw [Settings.update_widget]
    exact ignores_getElement answers.world

variable (status : ChannelStatus) (channelName message : Str)

theorem getElem?_updateChannelStatus (name : Str) :
    (widget.updateChannelStatus status channelName message).mCachedElements[name]? =
      if channelName = name then some (status, cstr message) else widget.mCachedElements[name]? := by
  rw [updateChannelStatus]
  dsimp only
  split <;> exact getElem?_insert _ _ _ _

/-- A report is shown if it is of the connection that is kept. -/
theorem isLabelled_updateChannelStatus (labelled : widget.IsLabelled) :
    (widget.updateChannelStatus status channelName message).IsLabelled := by
  intro info member
  rw [getChannelInfo, getElem?_updateChannelStatus]
  have kept : info ∈ widget.mInfo := by
    rw [updateChannelStatus] at member
    split at member <;> exact member
  rw [updateChannelStatus]
  by_cases same : channelName = info.mConnName
  · simp [Option.mem_def.mp kept, same]
  · have other : some info.mConnName ≠ some channelName :=
      fun eq => same (Option.some.inj eq).symm
    simpa [Option.mem_def.mp kept, same, other, getChannelInfo] using labelled info kept

variable (setup) in
/-- What the widget hears is cached. -/
theorem happens_reported (event : ConnectionInfoEvent) (labelled : widget.IsLabelled) :
    (∀ name : Str, (widget.happens setup event).mCachedElements[name]? =
      (reported (i := i) name (.happens event)).or widget.mCachedElements[name]?) ∧
    (widget.happens setup event).IsLabelled := by
  have ignored (widget' : ConnectionInfoWidget i) (ignores : widget.Ignores widget') :
      (∀ name : Str, widget'.mCachedElements[name]? = widget.mCachedElements[name]?) ∧
        widget'.IsLabelled := by
    refine ⟨?_, ignores.labelled labelled⟩
    intro name
    rw [ignores.cached]
  cases event with
  | status status channelName message =>
    rw [happens]
    split
    · rename_i missing
      refine ⟨?_, labelled⟩
      intro name
      simp [reported, missing]
    · rename_i heard
      refine ⟨?_, isLabelled_updateChannelStatus status channelName message labelled⟩
      intro name
      rw [getElem?_updateChannelStatus]
      by_cases same : channelName = name <;> simp [reported, heard, same]
  | connectionName text =>
    apply ignored
    rw [happens]
    split <;> exact ignores_of_kept (fun _ kept => kept) rfl rfl
  | connectionType index =>
    apply ignored
    rw [happens]
    split <;> exact ignores_of_kept (fun _ kept => kept) rfl rfl
  | fields fields =>
    apply ignored
    rw [happens]
    split <;> exact ignores_of_kept (fun _ kept => kept) rfl rfl

variable (setup) in
/-- What a run of the dialog keeps of the status. -/
structure IsCurrent (widget : ConnectionInfoWidget i) (moves : List (Move i))
    (settings : Settings (ConnectionInfoWidget i) (ConnectionHolder i)) : Prop where
  proper : settings.running = true → settings.dialog.IsProper
  cached : ∀ name : Str, settings.widget.mCachedElements[name]? = lastReport setup widget moves name
  labelled : settings.widget.IsLabelled

theorem isCurrent_after (unshown : widget.mInfo = none) (unreported : widget.mCachedElements = ∅)
    {moves : List (Move i)}
    (used : Run.Along (Settings.next (ops setup)) Settings.IsUsed (.initial widget) moves) :
    IsCurrent setup widget moves
      (Run.after (Settings.next (ops setup)) (.initial widget) moves) := by
  have start : IsCurrent setup widget [] (.initial widget) := by
    refine ⟨fun _ => BaseSettingsDialog.isProper_initial, ?_, ?_⟩
    · intro name
      simp [Settings.initial, unreported, lastReport, Run.latest, Run.steps]
    · simp [Settings.initial, IsLabelled, unshown]
  refine Run.history_after (I := IsCurrent setup widget) start ?_ used
  intro before move current used
  obtain ⟨settings', performed, acts⟩ := Settings.acts (current.proper used.1) used
  rw [Settings.next, performed]
  have heard (name : Str) : lastReport setup widget (before ++ [move]) name =
      (reported name move).or (lastReport setup widget before name) := Run.latest_concat _ _ _ _
  have changed : (∀ name : Str, settings'.widget.mCachedElements[name]? = (reported name move).or
        (Run.after (Settings.next (ops setup)) (.initial widget) before).widget.mCachedElements[name]?) ∧
      settings'.widget.IsLabelled := by
    cases move with
    | click click answers =>
      have ignores := ignores_click acts
      refine ⟨?_, ignores.labelled current.labelled⟩
      intro name
      rw [ignores.cached]
      rfl
    | happens event =>
      cases acts with
      | happens event =>
        exact happens_reported setup event current.labelled
  refine ⟨acts.isProper (current.proper used.1), ?_, changed.2⟩
  intro name
  rw [changed.1, heard, current.cached]

end

end ConnectionInfoWidget

/-- Over every run of a dialog of connections, the status of the connection that is kept for its fields
is the one reported of it last. -/
theorem connection_status_current (setup : ConnectionSetup i) (widget : ConnectionInfoWidget i)
    (unshown : widget.mInfo = none) (unreported : widget.mCachedElements = ∅)
    (moves : List (ConnectionInfoWidget.Move i))
    (used : Run.Along (Settings.next (ConnectionInfoWidget.ops setup)) Settings.IsUsed
      (.initial widget) moves) :
    let settings := Run.after (Settings.next (ConnectionInfoWidget.ops setup)) (.initial widget) moves
    ∀ info ∈ settings.widget.mInfo, settings.widget.statusText =
      some ((ConnectionInfoWidget.lastReport setup widget moves info.mConnName).getD
        (.undefined, [])) := by
  intro settings info member
  have current := ConnectionInfoWidget.isCurrent_after unshown unreported used
  rw [← current.cached]
  exact current.labelled info member

namespace Sample

/-- The connection is viewed, and its channel is connected. -/
def statusMoves : List (ConnectionInfoWidget.Move 32) :=
  [.click (.elementsView (str "mail")) connectionAnswers,
    .happens (.status .connected (str "mail") [])]

end Sample

/-- The report is shown. -/
theorem sample_connection_status_current :
    (Run.after (Settings.next (ConnectionInfoWidget.ops Sample.connectionSetup))
      (.initial Sample.connectionInfoWidget) Sample.statusMoves).widget.statusText =
        some (.connected, []) := by
  have current := connection_status_current Sample.connectionSetup Sample.connectionInfoWidget rfl rfl
    Sample.statusMoves ⟨⟨rfl, trivial⟩, ⟨rfl, trivial⟩, trivial⟩
  exact current Sample.storedConnection rfl

end SecureDialogues
