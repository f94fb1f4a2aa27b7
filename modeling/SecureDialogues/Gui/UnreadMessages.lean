import SecureDialogues.Gui.DialogUserModel

/-!
# The unread messages of a row

The number that a row shows is compared with the history of events: how often a message came for
the dialog while it was not the active one, since the row was last looked at. A step lemma says
what an event does to a row's number, and the count over a run follows it.
-/

namespace SecureDialogues

open Text

namespace DialogUserModel

variable {w : Nat}

/-! ## What the rows should show -/

/-- The event adds a row for the dialog. -/
def Event.Adds (dialogId : Str) : Event w → Prop
  | .dialogAdded _ (some _) obj => obj.mDialogId = dialogId
  | _ => False

/-- The event selects the dialog's row. -/
def Selects (dialogId : Str) (model : DialogUserModel w) : Event w → Prop
  | .rowWasSelected index => (model.rowAt index).map (·.mDialogId) = some dialogId
  | _ => False

/-- With this event the count begins anew: the dialog is added, becomes the active one, or its row
is selected. -/
def Restarts (dialogId : Str) (model : DialogUserModel w) (event : Event w) : Prop :=
  event.Adds dialogId ∨
    (model.activeDialog ≠ dialogId ∧ (model.handle event).activeDialog = dialogId) ∨
    model.Selects dialogId event

/-- The event is a message for the dialog while another is the active one. -/
def IsUnread (dialogId : Str) (model : DialogUserModel w) : Event w → Prop
  | .messageAdded _ addressed => addressed = dialogId ∧ model.activeDialog ≠ dialogId
  | _ => False

instance (dialogId : Str) : DecidablePred (Event.Adds (w := w) dialogId)
  | .dialogAdded _ (some _) obj => inferInstanceAs (Decidable (obj.mDialogId = dialogId))
  | .dialogAdded _ none _ | .dialogChanged _ _ | .dialogRemoved _ _ | .contactAdded _
  | .contactChanged _ | .contactRemoved _ | .messageAdded _ _ | .rowWasSelected _ => isFalse id

instance (dialogId : Str) (model : DialogUserModel w) : DecidablePred (model.Selects dialogId)
  | .rowWasSelected index =>
    inferInstanceAs (Decidable ((model.rowAt index).map (·.mDialogId) = some dialogId))
  | .dialogAdded _ _ _ | .dialogChanged _ _ | .dialogRemoved _ _ | .contactAdded _
  | .contactChanged _ | .contactRemoved _ | .messageAdded _ _ => isFalse id

instance (dialogId : Str) (model : DialogUserModel w) (event : Event w) :
    Decidable (Restarts dialogId model event) :=
  inferInstanceAs (Decidable (_ ∨ (_ ∧ _) ∨ _))

instance (dialogId : Str) (model : DialogUserModel w) (event : Event w) :
    Decidable (IsUnread dialogId model event) :=
  match event with
  | .messageAdded _ addressed =>
    inferInstanceAs (Decidable (addressed = dialogId ∧ model.activeDialog ≠ dialogId))
  | .dialogAdded _ _ _ | .dialogChanged _ _ | .dialogRemoved _ _ | .contactAdded _
  | .contactChanged _ | .contactRemoved _ | .rowWasSelected _ => isFalse id

/-- The messages for the dialog that came while it was not the active one, since the latest of its
addition, its becoming the active one, and its selection. -/
def unreadCount (events : List (Event w)) (dialogId : Str) : Nat :=
  Run.countSince handle (Restarts dialogId) (IsUnread dialogId) empty events

/-- A dialog is added under an identifier that no row has. -/
def AddsFresh (model : DialogUserModel w) : Event w → Prop
  | .dialogAdded _ _ obj => obj.mDialogId ∉ model.ids
  | _ => True

instance (model : DialogUserModel w) : DecidablePred model.AddsFresh
  | .dialogAdded _ _ obj => inferInstanceAs (Decidable (obj.mDialogId ∉ model.ids))
  | .dialogChanged _ _ | .dialogRemoved _ _ | .contactAdded _ | .contactChanged _
  | .contactRemoved _ | .messageAdded _ _ | .rowWasSelected _ => isTrue trivial

/-! ## Rows -/

section

variable (model : DialogUserModel w)

/-- What holds between events: the rows are of different dialogs, the active dialog is one of them
as long as there are any, and it has no unread messages. -/
structure Sound : Prop where
  distinct : model.ids.Nodup
  active : model.ids ≠ [] → model.activeDialog ∈ model.ids
  read : ∀ info ∈ model.mDialogsInfo, info.mDialogId = model.activeDialog →
    info.mUnreadMessages = 0

theorem sound_empty : (empty (w := w)).Sound where
  distinct := List.nodup_nil
  active rows := absurd rfl rows
  read _ member := absurd member List.not_mem_nil

/-- The row that `std::find_if` finds is of the dialog. -/
theorem mDialogId_of_rowOf {dialogId : Str} {info : DialogInfo w}
    (found : model.mDialogsInfo[model.rowOf dialogId]? = some info) :
    info.mDialogId = dialogId := by
  obtain ⟨inside, rfl⟩ := List.getElem?_eq_some_iff.mp found
  have holds := List.findIdx_getElem (w := inside)
  exact (of_decide_eq_true holds).symm

theorem rowOf_le (dialogId : Str) : model.rowOf dialogId ≤ model.mDialogsInfo.length :=
  List.findIdx_le_length

/-- If it finds none, no row is of the dialog. -/
theorem mDialogId_ne_of_rowOf {dialogId : Str}
    (missing : model.mDialogsInfo[model.rowOf dialogId]? = none) {info : DialogInfo w}
    (member : info ∈ model.mDialogsInfo) : info.mDialogId ≠ dialogId := by
  intro same
  have inside : model.rowOf dialogId < model.mDialogsInfo.length :=
    List.findIdx_lt_length_of_exists ⟨info, member, by simp [same]⟩
  rw [List.getElem?_eq_getElem inside] at missing
  cases missing

theorem mem_ids {info : DialogInfo w} (member : info ∈ model.mDialogsInfo) :
    info.mDialogId ∈ model.ids := List.mem_map_of_mem member

variable {model}

/-- Two places of a model with different dialogs hold rows of different dialogs. -/
theorem mDialogId_ne_of_ne (distinct : model.ids.Nodup) {i j : Nat} {info other : DialogInfo w}
    (here : model.mDialogsInfo[i]? = some info) (there : model.mDialogsInfo[j]? = some other)
    (different : i ≠ j) : info.mDialogId ≠ other.mDialogId := by
  intro same
  have first : model.ids[i]? = some info.mDialogId := by rw [ids, List.getElem?_map, here]; rfl
  have second : model.ids[j]? = some info.mDialogId := by
    rw [ids, List.getElem?_map, there, same]
    rfl
  obtain ⟨inside, -⟩ := List.getElem?_eq_some_iff.mp first
  exact different ((List.getElem?_inj inside distinct).mp (first.trans second.symm))

/-- The rows after one of them is changed: the changed one, and those of other dialogs. -/
theorem mem_modify (distinct : model.ids.Nodup) {row : Nat} {info changed : DialogInfo w}
    (here : model.mDialogsInfo[row]? = some info) {change : DialogInfo w → DialogInfo w}
    (member : changed ∈ model.mDialogsInfo.modify row change) :
    changed = change info ∨
      changed ∈ model.mDialogsInfo ∧ changed.mDialogId ≠ info.mDialogId := by
  obtain ⟨place, there⟩ := List.getElem?_of_mem member
  by_cases same : row = place
  · rw [← same, List.getElem?_modify_eq, here] at there
    exact .inl (Option.some.inj there).symm
  · rw [List.getElem?_modify_ne _ _ same] at there
    refine .inr ⟨List.mem_of_getElem? there, ?_⟩
    exact mDialogId_ne_of_ne distinct there here (Ne.symm same)

/-- A change that keeps the dialog of its row keeps the dialogs of all rows. -/
theorem map_modify {row : Nat} {info : DialogInfo w} {change : DialogInfo w → DialogInfo w}
    (here : model.mDialogsInfo[row]? = some info)
    (keeps : (change info).mDialogId = info.mDialogId) :
    (model.mDialogsInfo.modify row change).map (·.mDialogId) = model.ids := by
  apply List.ext_getElem?
  intro place
  rw [ids, List.getElem?_map, List.getElem?_map]
  by_cases same : row = place
  · rw [← same, List.getElem?_modify_eq, here]
    exact congrArg some keeps
  · rw [List.getElem?_modify_ne _ _ same]

/-- A place in front of the erased row keeps its row, and every other one gets the next row. -/
theorem getElem?_erase (clock : Nat → Int) {rows : List (DialogInfo w)} {row : Nat}
    (inside : row ≤ rows.length) (place : Nat) :
    (erase clock rows row)[place]? =
      if place < row then rows[place]?
      else rows[place + 1]?.map fun info => info.assign (clock (place - row)) := by
  have front : (rows.take row).length = row := by rw [List.length_take, Nat.min_eq_left inside]
  rw [erase]
  split_ifs with before
  · rw [List.getElem?_append_left (by omega), List.getElem?_take_of_lt before]
  · have next : row + 1 + (place - row) = place + 1 := by omega
    rw [List.getElem?_append_right (by omega), List.getElem?_mapIdx, List.getElem?_drop, front,
      next]

/-- Erasing a row erases its dialog. -/
theorem map_erase (clock : Nat → Int) {rows : List (DialogInfo w)} {row : Nat}
    (inside : row ≤ rows.length) :
    (erase clock rows row).map (·.mDialogId) = (rows.map (·.mDialogId)).eraseIdx row := by
  apply List.ext_getElem?
  intro place
  rw [List.getElem?_map, getElem?_erase clock inside, List.getElem?_eraseIdx]
  split_ifs
  · rw [List.getElem?_map]
  · rw [List.getElem?_map, Option.map_map]
    rfl

/-- The rows after one of them is erased are, but for their times, those of other dialogs. -/
theorem mem_erase (distinct : model.ids.Nodup) {row : Nat} {gone info : DialogInfo w}
    (here : model.mDialogsInfo[row]? = some gone) {clock : Nat → Int}
    (member : info ∈ erase clock model.mDialogsInfo row) :
    ∃ before ∈ model.mDialogsInfo, before.mDialogId = info.mDialogId ∧
      before.mUnreadMessages = info.mUnreadMessages ∧ info.mDialogId ≠ gone.mDialogId := by
  obtain ⟨inside, -⟩ := List.getElem?_eq_some_iff.mp here
  obtain ⟨place, there⟩ := List.getElem?_of_mem member
  rw [getElem?_erase clock inside.le] at there
  split_ifs at there with front
  · refine ⟨info, List.mem_of_getElem? there, rfl, rfl, ?_⟩
    exact mDialogId_ne_of_ne distinct there here (by omega)
  · obtain ⟨before, later, rfl⟩ := Option.map_eq_some_iff.mp there
    refine ⟨before, List.mem_of_getElem? later, rfl, rfl, ?_⟩
    have other : before.mDialogId ≠ gone.mDialogId :=
      mDialogId_ne_of_ne distinct later here (by omega)
    exact other

end

/-! ## The operations -/

section

variable (model : DialogUserModel w) (now : Int) (clock : Nat → Int) (obj : Dialog w)

theorem activeDialog_added (found : Option Contact) :
    (model.added now found obj).activeDialog = model.activeDialog ∨
      (model.added now found obj).activeDialog = obj.mDialogId := by
  cases found with
  | none => exact .inl rfl
  | some contact =>
    rw [added]
    split_ifs
    · exact .inr rfl
    · exact .inl rfl

theorem mDialogsInfo_added (contact : Contact) :
    (model.added now (some contact) obj).mDialogsInfo =
      model.mDialogsInfo ++ [DialogInfo.ofDialog now obj contact] := by
  rw [added]
  split_ifs <;> rfl

theorem ids_added (contact : Contact) :
    (model.added now (some contact) obj).ids = model.ids ++ [obj.mDialogId] := by
  rw [ids, mDialogsInfo_added, List.map_append]
  rfl

/-- The only row is the active one from the start. -/
theorem activeDialog_added_first (none' : model.mDialogsInfo = []) (contact : Contact) :
    (model.added now (some contact) obj).activeDialog = obj.mDialogId := by
  simp only [added, rowCount, emitted_mDialogsInfo, none']
  exact rfl

theorem activeDialog_changed : (model.changed now obj).activeDialog = model.activeDialog := by
  cases found : model.mDialogsInfo[model.rowOf obj.mDialogId]? with
  | none => simp only [changed, found]
  | some old =>
    by_cases isActive : model.activeDialog = obj.mDialogId
    · simp only [changed, found, if_pos isActive, modifyRow_activeDialog,
        updateActiveDialog_activeDialog]
      exact isActive.symm
    · simp only [changed, found, if_neg isActive, emitted_activeDialog, modifyRow_activeDialog]

variable {model}

theorem changed_of_missing
    (missing : model.mDialogsInfo[model.rowOf obj.mDialogId]? = none) :
    model.changed now obj = model := by rw [changed, missing]

/-- The number of the row stays: that of the active dialog is reset to the zero that it is. -/
theorem mDialogsInfo_changed (sound : model.Sound) {old : DialogInfo w}
    (found : model.mDialogsInfo[model.rowOf obj.mDialogId]? = some old) :
    ∃ change : DialogInfo w → DialogInfo w,
      (model.changed now obj).mDialogsInfo =
        model.mDialogsInfo.modify (model.rowOf obj.mDialogId) change ∧
      (change old).mDialogId = old.mDialogId ∧
      (change old).mUnreadMessages = old.mUnreadMessages := by
  have dialog := model.mDialogId_of_rowOf found
  by_cases isActive : model.activeDialog = obj.mDialogId
  · refine ⟨fun info => (info.assignDialog now obj).messagesReaded, ?_, dialog.symm, ?_⟩
    · simp only [changed, found, if_pos isActive, modifyRow_mDialogsInfo,
        updateActiveDialog_mDialogsInfo, emitted_mDialogsInfo, List.modify_modify_eq]
      rfl
    · exact (sound.read old (List.mem_of_getElem? found) (dialog.trans isActive.symm)).symm
  · refine ⟨fun info => info.assignDialog now obj, ?_, dialog.symm, rfl⟩
    simp only [changed, found, if_neg isActive, emitted_mDialogsInfo, modifyRow_mDialogsInfo]

theorem ids_changed (sound : model.Sound) : (model.changed now obj).ids = model.ids := by
  cases found : model.mDialogsInfo[model.rowOf obj.mDialogId]? with
  | none => rw [changed_of_missing now obj found]
  | some old =>
    obtain ⟨change, rows, kept, -⟩ := mDialogsInfo_changed now obj sound found
    rw [ids, rows, map_modify found kept]

theorem removed_of_missing
    (missing : model.mDialogsInfo[model.rowOf obj.mDialogId]? = none) :
    model.removed clock obj = model := by rw [removed, missing]

/-- The rows without the removed one; if it was that of the active dialog, the first of them
becomes that of the active dialog. -/
theorem mDialogsInfo_removed {gone : DialogInfo w}
    (found : model.mDialogsInfo[model.rowOf obj.mDialogId]? = some gone) :
    (model.removed clock obj).mDialogsInfo =
      if model.activeDialog = obj.mDialogId then
        (erase clock model.mDialogsInfo (model.rowOf obj.mDialogId)).modify 0
          DialogInfo.messagesReaded
      else erase clock model.mDialogsInfo (model.rowOf obj.mDialogId) := by
  by_cases isActive : model.activeDialog = obj.mDialogId
  · simp only [removed, found, if_pos isActive, emitted_mDialogsInfo]
    split
    · rename_i rest
      simp [rest]
    · simp
  · simp only [removed, found, if_neg isActive, emitted_mDialogsInfo]

theorem activeDialog_removed {gone : DialogInfo w}
    (found : model.mDialogsInfo[model.rowOf obj.mDialogId]? = some gone) :
    (model.removed clock obj).activeDialog =
      if model.activeDialog = obj.mDialogId then
        ((model.removed clock obj).mDialogsInfo.head?.map (·.mDialogId)).getD []
      else model.activeDialog := by
  rw [mDialogsInfo_removed clock obj found]
  by_cases isActive : model.activeDialog = obj.mDialogId
  · simp only [removed, found, if_pos isActive, emitted_mDialogsInfo]
    split
    · rename_i rest
      simp [rest]
    · rename_i first others rest
      simp only [rest, modifyRow_activeDialog, updateActiveDialog_activeDialog,
        List.modify_zero_cons]
      rfl
  · simp only [removed, found, if_neg isActive, emitted_activeDialog]

theorem ids_removed :
    (model.removed clock obj).ids = model.ids.eraseIdx (model.rowOf obj.mDialogId) := by
  cases found : model.mDialogsInfo[model.rowOf obj.mDialogId]? with
  | none =>
    rw [removed_of_missing clock obj found, List.eraseIdx_of_length_le]
    simpa [ids] using found
  | some gone =>
    rw [ids, mDialogsInfo_removed clock obj found]
    split_ifs with isActive
    · cases rest : erase clock model.mDialogsInfo (model.rowOf obj.mDialogId) with
      | nil =>
        rw [ids, ← map_erase clock (model.rowOf_le _), rest]
        rfl
      | cons first others =>
        rw [ids, ← map_erase clock (model.rowOf_le _), rest]
        rfl
    · exact map_erase clock (model.rowOf_le _)

variable (model)

theorem ids_contactChanged (contact : Contact) :
    (model.contactChanged contact).ids = model.ids := by
  simp only [contactChanged, ids, emitted_mDialogsInfo, List.map_map]
  apply List.map_congr_left
  intro info _
  dsimp only [Function.comp_apply]
  split_ifs <;> rfl

theorem activeDialog_messageAdded (dialogId : Str) :
    (model.messageAdded now dialogId).activeDialog = model.activeDialog := by
  rw [messageAdded]
  split_ifs
  · rfl
  · dsimp only
    split <;> rfl

variable {model}

theorem messageAdded_of_missing {dialogId : Str}
    (missing : model.mDialogsInfo[model.rowOf dialogId]? = none) :
    model.messageAdded now dialogId = model := by
  rw [messageAdded]
  split_ifs
  · rfl
  · simp only [missing]

theorem mDialogsInfo_messageAdded {dialogId : Str} (inactive : model.activeDialog ≠ dialogId)
    {old : DialogInfo w} (found : model.mDialogsInfo[model.rowOf dialogId]? = some old) :
    (model.messageAdded now dialogId).mDialogsInfo =
      model.mDialogsInfo.modify (model.rowOf dialogId) (DialogInfo.addUnreadMessage now) := by
  simp only [messageAdded, if_neg inactive, found, emitted_mDialogsInfo, modifyRow_mDialogsInfo]

theorem ids_messageAdded (dialogId : Str) :
    (model.messageAdded now dialogId).ids = model.ids := by
  by_cases isActive : model.activeDialog = dialogId
  · rw [messageAdded, if_pos isActive]
  · cases found : model.mDialogsInfo[model.rowOf dialogId]? with
    | none => rw [messageAdded_of_missing now found]
    | some old => rw [ids, mDialogsInfo_messageAdded now isActive found, map_modify found rfl]

theorem rowWasSelected_of_none {index : Int} (outside : model.rowAt index = none) :
    model.rowWasSelected index = model := by rw [rowWasSelected, outside]

theorem getElem?_of_rowAt {index : Int} {info : DialogInfo w}
    (selected : model.rowAt index = some info) : model.mDialogsInfo[index.toNat]? = some info := by
  rw [rowAt] at selected
  split_ifs at selected
  exact selected

theorem mDialogsInfo_rowWasSelected {index : Int} {info : DialogInfo w}
    (selected : model.rowAt index = some info) :
    (model.rowWasSelected index).mDialogsInfo =
      model.mDialogsInfo.modify index.toNat DialogInfo.messagesReaded := by
  rw [rowWasSelected, selected]
  rfl

theorem activeDialog_rowWasSelected {index : Int} {info : DialogInfo w}
    (selected : model.rowAt index = some info) :
    (model.rowWasSelected index).activeDialog = info.mDialogId := by
  rw [rowWasSelected, selected]
  rfl

theorem ids_rowWasSelected (index : Int) : (model.rowWasSelected index).ids = model.ids := by
  cases selected : model.rowAt index with
  | none => rw [rowWasSelected_of_none selected]
  | some info =>
    rw [ids, mDialogsInfo_rowWasSelected selected, map_modify (getElem?_of_rowAt selected) rfl]

end

/-! ## One event -/

/-- What an event does to the number of a row: it is zero when the count begins anew, and otherwise
it goes up by one for a message that is to be counted. -/
inductive RowFollows (model : DialogUserModel w) (event : Event w) (info : DialogInfo w) :
    Prop where
  | restarted (restarts : Restarts info.mDialogId model event) (read : info.mUnreadMessages = 0)
  | kept {before : DialogInfo w} (member : before ∈ model.mDialogsInfo)
      (dialog : before.mDialogId = info.mDialogId)
      (count : before.mUnreadMessages = info.mUnreadMessages)
      (goesOn : ¬ Restarts info.mDialogId model event)
      (uncounted : ¬ IsUnread info.mDialogId model event)
  | counted {before : DialogInfo w} (member : before ∈ model.mDialogsInfo)
      (dialog : before.mDialogId = info.mDialogId)
      (count : before.mUnreadMessages + 1 = info.mUnreadMessages)
      (goesOn : ¬ Restarts info.mDialogId model event)
      (unread : IsUnread info.mDialogId model event)

/-- Every row follows the event. -/
def Follows (model : DialogUserModel w) (event : Event w) : Prop :=
  ∀ info ∈ (model.handle event).mDialogsInfo, model.RowFollows event info

theorem not_restarts_of_same {model : DialogUserModel w} {event : Event w} {dialogId : Str}
    (adds : ¬ event.Adds dialogId) (selects : ¬ model.Selects dialogId event)
    (same : (model.handle event).activeDialog = model.activeDialog) :
    ¬ Restarts dialogId model event := by
  intro restarts
  rcases restarts with added | becomes | selected
  · exact adds added
  · exact becomes.1 (same ▸ becomes.2)
  · exact selects selected

section

variable {model : DialogUserModel w} (sound : model.Sound)

theorem follows_added (now : Int) (found : Option Contact) (obj : Dialog w)
    (fresh : obj.mDialogId ∉ model.ids) : model.Follows (.dialogAdded now found obj) := by
  intro info member
  cases found with
  | none => exact .kept member rfl rfl (not_restarts_of_same id id rfl) id
  | some contact =>
    rw [handle, mDialogsInfo_added, List.mem_append, List.mem_singleton] at member
    rcases member with old | rfl
    · have other : info.mDialogId ≠ obj.mDialogId := fun same => fresh (same ▸ model.mem_ids old)
      refine .kept old rfl rfl ?_ id
      intro restarts
      rcases restarts with adds | becomes | selects
      · exact other adds.symm
      · rcases model.activeDialog_added now obj (some contact) with same | new
        · exact becomes.1 (same.symm.trans becomes.2)
        · exact other (becomes.2.symm.trans new)
      · exact selects
    · exact .restarted (.inl rfl) rfl

include sound

theorem follows_changed (now : Int) (obj : Dialog w) :
    model.Follows (.dialogChanged now obj) := by
  intro info member
  have goesOn : ¬ Restarts info.mDialogId model (.dialogChanged now obj) :=
    not_restarts_of_same id id (model.activeDialog_changed now obj)
  cases found : model.mDialogsInfo[model.rowOf obj.mDialogId]? with
  | none =>
    rw [handle, changed_of_missing now obj found] at member
    exact .kept member rfl rfl goesOn id
  | some old =>
    obtain ⟨change, rows, kept, count⟩ := mDialogsInfo_changed now obj sound found
    rw [handle, rows] at member
    rcases mem_modify sound.distinct found member with rfl | unchanged
    · exact .kept (List.mem_of_getElem? found) kept.symm count.symm goesOn id
    · exact .kept unchanged.1 rfl rfl goesOn id

/-- The active dialog is removed: the count of the first other row begins anew, and the rest of the
rows go on. -/
theorem follows_removed_active {clock : Nat → Int} {obj : Dialog w} {gone : DialogInfo w}
    (found : model.mDialogsInfo[model.rowOf obj.mDialogId]? = some gone)
    (isActive : model.activeDialog = obj.mDialogId) : model.Follows (.dialogRemoved clock obj) := by
  intro info member
  have rows := mDialogsInfo_removed clock obj found
  have active := activeDialog_removed clock obj found
  rw [if_pos isActive] at rows active
  cases rest : erase clock model.mDialogsInfo (model.rowOf obj.mDialogId) with
  | nil =>
    rw [handle, rows, rest] at member
    cases member
  | cons first others =>
    rw [rest, List.modify_zero_cons] at rows
    rw [rows] at active
    have distinct : ((first :: others).map (·.mDialogId)).Nodup := by
      rw [← rest, map_erase clock (model.rowOf_le _)]
      exact sound.distinct.sublist (List.eraseIdx_sublist _ _)
    rw [List.map_cons, List.nodup_cons] at distinct
    rw [handle, rows, List.mem_cons] at member
    rcases member with rfl | later
    · obtain ⟨-, -, -, -, other⟩ := mem_erase sound.distinct found (rest ▸ List.mem_cons_self)
      refine .restarted (.inr (.inl ⟨?_, active⟩)) rfl
      intro same
      have removed := model.mDialogId_of_rowOf found
      exact other (same.symm.trans (isActive.trans removed.symm))
    · obtain ⟨before, present, sameDialog, sameCount, -⟩ := mem_erase sound.distinct found
        (rest ▸ List.mem_cons_of_mem _ later)
      refine .kept present sameDialog sameCount ?_ id
      intro restarts
      rcases restarts with adds | becomes | selects
      · exact adds
      · have second : info.mDialogId = first.mDialogId := becomes.2.symm.trans active
        exact distinct.1 (second ▸ List.mem_map_of_mem later)
      · exact selects

theorem follows_removed (clock : Nat → Int) (obj : Dialog w) :
    model.Follows (.dialogRemoved clock obj) := by
  cases found : model.mDialogsInfo[model.rowOf obj.mDialogId]? with
  | none =>
    intro info member
    have same := removed_of_missing clock obj found
    rw [handle, same] at member
    exact .kept member rfl rfl (not_restarts_of_same id id (congrArg activeDialog same)) id
  | some gone =>
    by_cases isActive : model.activeDialog = obj.mDialogId
    · exact follows_removed_active sound found isActive
    · intro info member
      have active := activeDialog_removed clock obj found
      rw [if_neg isActive] at active
      rw [handle, mDialogsInfo_removed clock obj found, if_neg isActive] at member
      obtain ⟨before, present, sameDialog, sameCount, -⟩ := mem_erase sound.distinct found member
      exact .kept present sameDialog sameCount (not_restarts_of_same id id active) id

omit sound in
theorem follows_contactChanged (obj : Contact) : model.Follows (.contactChanged obj) := by
  intro info member
  obtain ⟨before, present, rfl⟩ := List.mem_map.mp member
  refine .kept present ?_ ?_ (not_restarts_of_same id id rfl) id
  · split_ifs <;> rfl
  · split_ifs <;> rfl

theorem follows_messageAdded (now : Int) (dialogId : Str) :
    model.Follows (.messageAdded now dialogId) := by
  intro info member
  have goesOn : ∀ d, ¬ Restarts d model (.messageAdded now dialogId) := fun d =>
    not_restarts_of_same id id (model.activeDialog_messageAdded now dialogId)
  by_cases isActive : model.activeDialog = dialogId
  · have same : model.messageAdded now dialogId = model := if_pos isActive
    rw [handle, same] at member
    refine .kept member rfl rfl (goesOn _) ?_
    intro unread
    exact unread.2 (isActive.trans unread.1)
  · cases found : model.mDialogsInfo[model.rowOf dialogId]? with
    | none =>
      rw [handle, messageAdded_of_missing now found] at member
      refine .kept member rfl rfl (goesOn _) ?_
      intro unread
      exact model.mDialogId_ne_of_rowOf found member unread.1.symm
    | some old =>
      have dialog := model.mDialogId_of_rowOf found
      rw [handle, mDialogsInfo_messageAdded now isActive found] at member
      rcases mem_modify sound.distinct found member with rfl | unchanged
      · refine .counted (List.mem_of_getElem? found) rfl rfl (goesOn _) ⟨dialog.symm, ?_⟩
        intro same
        exact isActive (same.trans dialog)
      · refine .kept unchanged.1 rfl rfl (goesOn _) ?_
        intro unread
        exact unchanged.2 (unread.1.symm.trans dialog.symm)

theorem follows_rowWasSelected (index : Int) : model.Follows (.rowWasSelected index) := by
  intro info member
  cases selected : model.rowAt index with
  | none =>
    have same := rowWasSelected_of_none selected
    rw [handle, same] at member
    refine .kept member rfl rfl ?_ id
    refine not_restarts_of_same id ?_ (congrArg activeDialog same)
    rw [Selects, selected]
    intro selects
    cases selects
  | some row =>
    rw [handle, mDialogsInfo_rowWasSelected selected] at member
    rcases mem_modify sound.distinct (getElem?_of_rowAt selected) member with rfl | unchanged
    · refine .restarted (.inr (.inr ?_)) rfl
      rw [Selects, selected]
      rfl
    · refine .kept unchanged.1 rfl rfl ?_ id
      intro restarts
      rcases restarts with adds | becomes | selects
      · exact adds
      · exact unchanged.2 (becomes.2.symm.trans (activeDialog_rowWasSelected selected))
      · rw [Selects, selected] at selects
        exact unchanged.2 (Option.some.inj selects).symm

theorem follows_handle {event : Event w} (fresh : model.AddsFresh event) : model.Follows event := by
  cases event with
  | dialogAdded now found obj => exact follows_added now found obj fresh
  | dialogChanged now obj => exact follows_changed sound now obj
  | dialogRemoved clock obj => exact follows_removed sound clock obj
  | contactChanged obj => exact follows_contactChanged obj
  | messageAdded now dialogId => exact follows_messageAdded sound now dialogId
  | rowWasSelected index => exact follows_rowWasSelected sound index
  | contactAdded _ | contactRemoved _ =>
    intro info member
    exact .kept member rfl rfl (not_restarts_of_same id id rfl) id

theorem distinct_handle {event : Event w} (fresh : model.AddsFresh event) :
    (model.handle event).ids.Nodup := by
  cases event with
  | dialogAdded now found obj =>
    cases found with
    | none => exact sound.distinct
    | some contact =>
      rw [handle, ids_added, List.nodup_append]
      refine ⟨sound.distinct, List.nodup_singleton _, ?_⟩
      intro dialogId old new member same
      rw [List.mem_singleton] at member
      exact fresh (member ▸ same ▸ old)
  | dialogChanged now obj =>
    rw [handle, ids_changed now obj sound]
    exact sound.distinct
  | dialogRemoved clock obj =>
    rw [handle, ids_removed]
    exact sound.distinct.sublist (List.eraseIdx_sublist _ _)
  | contactChanged obj =>
    rw [handle, ids_contactChanged]
    exact sound.distinct
  | messageAdded now dialogId =>
    rw [handle, ids_messageAdded]
    exact sound.distinct
  | rowWasSelected index =>
    rw [handle, ids_rowWasSelected]
    exact sound.distinct
  | contactAdded _ | contactRemoved _ => exact sound.distinct

/-- The active dialog keeps its row, or the first row's dialog becomes the active one. -/
theorem active_removed (clock : Nat → Int) (obj : Dialog w)
    (rows : (model.removed clock obj).ids ≠ []) :
    (model.removed clock obj).activeDialog ∈ (model.removed clock obj).ids := by
  cases found : model.mDialogsInfo[model.rowOf obj.mDialogId]? with
  | none =>
    rw [removed_of_missing clock obj found] at rows ⊢
    exact sound.active rows
  | some gone =>
    rw [activeDialog_removed clock obj found]
    by_cases isActive : model.activeDialog = obj.mDialogId
    · rw [if_pos isActive]
      cases shape : (model.removed clock obj).mDialogsInfo with
      | nil => exact absurd (by rw [ids, shape]; rfl) rows
      | cons first others =>
        rw [ids, shape]
        exact List.mem_cons_self
    · have present := sound.active (List.ne_nil_of_mem (model.mem_ids (List.mem_of_getElem? found)))
      obtain ⟨place, there⟩ := List.getElem?_of_mem present
      rw [if_neg isActive, ids_removed, List.mem_eraseIdx_iff_getElem?]
      refine ⟨place, ?_, there⟩
      intro same
      rw [same, ids, List.getElem?_map, found] at there
      apply isActive
      rw [← model.mDialogId_of_rowOf found]
      exact (Option.some.inj there).symm

theorem active_handle (event : Event w) (rows : (model.handle event).ids ≠ []) :
    (model.handle event).activeDialog ∈ (model.handle event).ids := by
  cases event with
  | dialogAdded now found obj =>
    cases found with
    | none => exact sound.active rows
    | some contact =>
      rw [handle, ids_added, List.mem_append, List.mem_singleton]
      by_cases first : model.mDialogsInfo = []
      · exact .inr (model.activeDialog_added_first now obj first contact)
      · rcases model.activeDialog_added now obj (some contact) with same | new
        · have present := sound.active (by rwa [ids, Ne, List.map_eq_nil_iff])
          exact .inl (same ▸ present)
        · exact .inr new
  | dialogChanged now obj =>
    rw [handle, ids_changed now obj sound] at rows ⊢
    rw [activeDialog_changed]
    exact sound.active rows
  | dialogRemoved clock obj => exact active_removed sound clock obj rows
  | contactChanged obj =>
    rw [handle, ids_contactChanged] at rows ⊢
    exact sound.active rows
  | messageAdded now dialogId =>
    rw [handle, ids_messageAdded] at rows ⊢
    rw [activeDialog_messageAdded]
    exact sound.active rows
  | rowWasSelected index =>
    rw [handle, ids_rowWasSelected] at rows ⊢
    cases selected : model.rowAt index with
    | none =>
      rw [rowWasSelected_of_none selected]
      exact sound.active rows
    | some info =>
      rw [activeDialog_rowWasSelected selected]
      exact model.mem_ids (List.mem_of_getElem? (getElem?_of_rowAt selected))
  | contactAdded _ | contactRemoved _ => exact sound.active rows

/-- The active dialog has no unread messages after an event that its row follows. -/
theorem read_handle {event : Event w} (follows : model.Follows event) {info : DialogInfo w}
    (member : info ∈ (model.handle event).mDialogsInfo)
    (isActive : info.mDialogId = (model.handle event).activeDialog) : info.mUnreadMessages = 0 := by
  -- A dialog that the event does not make the active one was so before.
  have before : ¬ Restarts info.mDialogId model event → model.activeDialog = info.mDialogId := by
    intro goesOn
    by_contra other
    exact goesOn (.inr (.inl ⟨other, isActive.symm⟩))
  cases follows info member with
  | restarted restarts read => exact read
  | kept present dialog count goesOn uncounted =>
    rw [← count]
    exact sound.read _ present (dialog.trans (before goesOn).symm)
  | counted present dialog count goesOn unread =>
    cases event with
    | messageAdded now addressed => exact absurd (before goesOn) unread.2
    | _ => exact absurd unread id

theorem sound_handle {event : Event w} (fresh : model.AddsFresh event) :
    (model.handle event).Sound where
  distinct := distinct_handle sound fresh
  active := active_handle sound event
  read _ := read_handle sound (follows_handle sound fresh)

end

/-! ## Every sequence of events -/

theorem unreadCount_concat (events : List (Event w)) (event : Event w) (dialogId : Str) :
    unreadCount (events ++ [event]) dialogId =
      if Restarts dialogId (Run.after handle empty events) event then 0
      else unreadCount events dialogId +
        if IsUnread dialogId (Run.after handle empty events) event then 1 else 0 :=
  Run.countSince_concat _ _ _ _ _

/-- The rows carry the counts of the history. -/
def Counted (events : List (Event w)) (model : DialogUserModel w) : Prop :=
  ∀ info ∈ model.mDialogsInfo,
    info.mUnreadMessages = BitVec.ofNat w (unreadCount events info.mDialogId)

/-- An event that the rows follow keeps them in step with the counts. -/
theorem counted_concat {events : List (Event w)} {event : Event w}
    (counted : Counted events (Run.after handle empty events))
    (follows : (Run.after handle empty events).Follows event) :
    Counted (events ++ [event]) ((Run.after handle empty events).handle event) := by
  intro info member
  rw [unreadCount_concat]
  cases follows info member with
  | restarted restarts read =>
    rw [if_pos restarts, read]
    rfl
  | kept present dialog count goesOn uncounted =>
    rw [if_neg goesOn, if_neg uncounted, ← count, counted _ present, dialog]
    rfl
  | counted present dialog count goesOn unread =>
    rw [if_neg goesOn, if_pos unread, ← count, counted _ present, dialog, BitVec.ofNat_add]
    rfl

theorem counted_after {events : List (Event w)}
    (fresh : Run.Along handle AddsFresh empty events) :
    (Run.after handle empty events).Sound ∧ Counted events (Run.after handle empty events) := by
  apply Run.history_after (I := fun events model => model.Sound ∧ Counted events model)
    (C := AddsFresh) _ _ fresh
  · exact ⟨sound_empty, fun _ member => absurd member List.not_mem_nil⟩
  · intro before event invariant fresh
    exact ⟨sound_handle invariant.1 fresh,
      counted_concat invariant.2 (follows_handle invariant.1 fresh)⟩

/-- After every sequence of events that adds dialogs under fresh identifiers, a row shows, in the
width of `size_t`, how many messages came for its dialog while it was not the active one, since the
latest of its addition, its becoming the active one and its selection. The active dialog's number
is zero, and while there are rows the active dialog is one of them. -/
theorem rows_show_unreadCount (events : List (Event w))
    (fresh : Run.Along handle AddsFresh empty events) :
    (∀ info ∈ (Run.after handle empty events).mDialogsInfo,
      info.mUnreadMessages.toNat = unreadCount events info.mDialogId % 2 ^ w) ∧
    (∀ info ∈ (Run.after handle empty events).mDialogsInfo,
      info.mDialogId = (Run.after handle empty events).activeDialog →
        info.mUnreadMessages.toNat = 0) ∧
    ((Run.after handle empty events).mDialogsInfo ≠ [] →
      ∃ info ∈ (Run.after handle empty events).mDialogsInfo,
        info.mDialogId = (Run.after handle empty events).activeDialog) := by
  obtain ⟨sound, counted⟩ := counted_after fresh
  refine ⟨?_, ?_, ?_⟩
  · intro info member
    rw [counted info member, BitVec.toNat_ofNat]
  · intro info member isActive
    rw [sound.read info member isActive]
    rfl
  · intro rows
    have present := sound.active (by rwa [ids, Ne, List.map_eq_nil_iff])
    obtain ⟨info, member, same⟩ := List.mem_map.mp present
    exact ⟨info, member, same⟩

namespace Sample

def contact : Contact where
  channelMoniker := str "smtp"
  name := str "peer"
  adress := str "peer@mail"
  id := str "peer"
  publicKey := []

def dialog (dialogId : Str) : Dialog w where
  mDialogId := dialogId
  mContactId := str "peer"
  mStatus := .active
  mPeerSequental := 0
  mThisSequental := 0

/-- The dialogs `a` and `b` are added, and `a` is the active one. -/
def twoRows : List (Event w) :=
  [.dialogAdded 1 (some contact) (dialog (str "a")),
    .dialogAdded 2 (some contact) (dialog (str "b"))]

/-- The dialog `b` gets two messages, is removed and added again, and gets one more. -/
def readded : List (Event w) :=
  twoRows ++ [.messageAdded 3 (str "b"), .messageAdded 4 (str "b"),
    .dialogRemoved (fun _ => 5) (dialog (str "b")),
    .dialogAdded 6 (some contact) (dialog (str "b")), .messageAdded 7 (str "b")]

end Sample

theorem readded_rows_show_unreadCount :
    (Run.after handle empty (Sample.readded (w := 64))).mDialogsInfo.map (·.mUnreadMessages) =
        [0, 1] ∧
      ∀ info ∈ (Run.after handle empty (Sample.readded (w := 64))).mDialogsInfo,
        info.mUnreadMessages.toNat =
          unreadCount (Sample.readded (w := 64)) info.mDialogId % 2 ^ 64 :=
  ⟨by decide +kernel, (rows_show_unreadCount _ (by decide +kernel)).1⟩

/-! ## The width of the number -/

section

variable (before : List (Event w)) (dialogId : Str) (now : Int) (n : Nat)

/-- Messages change neither the active dialog nor the dialogs of the rows. -/
theorem after_messages :
    (Run.after handle empty (before ++ .replicate n (.messageAdded now dialogId))).activeDialog =
        (Run.after handle empty before).activeDialog ∧
      (Run.after handle empty (before ++ .replicate n (.messageAdded now dialogId))).ids =
        (Run.after handle empty before).ids := by
  induction n with
  | zero =>
    rw [List.replicate_zero, List.append_nil]
    exact ⟨rfl, rfl⟩
  | succ n ih =>
    rw [List.replicate_succ', ← List.append_assoc, Run.after_append, ← ih.1, ← ih.2]
    exact ⟨activeDialog_messageAdded _ _ _, ids_messageAdded _ _⟩

theorem along_messages (fresh : Run.Along handle AddsFresh empty before) :
    Run.Along handle AddsFresh empty (before ++ .replicate n (.messageAdded now dialogId)) := by
  induction n with
  | zero => rwa [List.replicate_zero, List.append_nil]
  | succ n ih =>
    rw [List.replicate_succ', ← List.append_assoc, Run.along_append]
    exact ⟨ih, trivial, trivial⟩

/-- Each message for a dialog that is not the active one counts. -/
theorem unreadCount_messages (inactive : (Run.after handle empty before).activeDialog ≠ dialogId) :
    unreadCount (before ++ .replicate n (.messageAdded now dialogId)) dialogId =
      unreadCount before dialogId + n := by
  induction n with
  | zero => rw [List.replicate_zero, List.append_nil, Nat.add_zero]
  | succ n ih =>
    have still := (after_messages before dialogId now n).1
    rw [List.replicate_succ', ← List.append_assoc, unreadCount_concat, ih, if_neg, if_pos]
    · rfl
    · exact ⟨rfl, still ▸ inactive⟩
    · exact not_restarts_of_same id id (activeDialog_messageAdded _ _ _)

end

/-- With a `size_t` of 32 bits, the row of a dialog that got `2 ^ 32` messages shows none. -/
theorem wrapped_row_shows_none :
    let events : List (Event 32) :=
      Sample.twoRows ++ .replicate (2 ^ 32) (.messageAdded 3 (str "b"))
    Run.Along handle AddsFresh empty events ∧
      ∃ info ∈ (Run.after handle empty events).mDialogsInfo, info.mDialogId = str "b" ∧
        info.mUnreadMessages.toNat = 0 ∧ unreadCount events info.mDialogId = 2 ^ 32 := by
  intro events
  have fresh : Run.Along handle AddsFresh empty events :=
    along_messages _ _ _ _ (by decide +kernel)
  have count : unreadCount events (str "b") = 2 ^ 32 := by
    have start : unreadCount (Sample.twoRows (w := 32)) (str "b") = 0 := by decide +kernel
    have counts := unreadCount_messages (Sample.twoRows (w := 32)) (str "b") 3 (2 ^ 32)
      (by decide +kernel)
    rw [start, Nat.zero_add] at counts
    exact counts
  have present : str "b" ∈ (Run.after handle empty events).ids := by
    rw [(after_messages _ _ _ _).2]
    decide +kernel
  obtain ⟨info, member, isSecond⟩ := List.mem_map.mp present
  refine ⟨fresh, info, member, isSecond, ?_, isSecond ▸ count⟩
  rw [(counted_after fresh).2 info member, BitVec.toNat_ofNat, isSecond, count, Nat.mod_self]

end DialogUserModel

end SecureDialogues
