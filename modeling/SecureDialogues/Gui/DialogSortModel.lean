import SecureDialogues.Gui.UnreadMessages

/-!
# The order of the dialogs

`gui/src/models/dialogs-list/dialogsortmodel.cpp`: the view shows the rows by status and, of one
status, by the time of their last change. `std::vector::erase` moves the rows behind the erased one
with `DialogInfo::operator=`, which stamps them, so a removal is compared here with the same rows
left alone.
-/

namespace SecureDialogues

open Text

namespace DialogSortModel

/-- `getRating` (`dialogsortmodel.cpp:6-18`). -/
def getRating : Status → Nat
  | .active => 1
  | .new | .createRequest => 2
  | .waitConfirm | .acceptedWait | .waitKeyVerificaion => 3
  | .closed | .aborted => 4

variable {w : Nat}

/-- `lessThan` (`dialogsortmodel.cpp:20-40`) of two indices at which there are rows; of others the
base class decides. -/
def lessThan (left right : DialogInfo w) : Bool :=
  let leftRating := getRating left.mStatus
  let rightRating := getRating right.mStatus
  if leftRating = rightRating then left.mLastUpdated < right.mLastUpdated
  else leftRating > rightRating

/-- Only the status and the time of a row take part in the order. -/
theorem lessThan_congr {left left' right right' : DialogInfo w}
    (leftStatus : left'.mStatus = left.mStatus) (rightStatus : right'.mStatus = right.mStatus)
    (leftTime : left'.mLastUpdated = left.mLastUpdated)
    (rightTime : right'.mLastUpdated = right.mLastUpdated) :
    lessThan left' right' = lessThan left right := by
  rw [lessThan, lessThan, leftStatus, rightStatus, leftTime, rightTime]

end DialogSortModel

open DialogSortModel

/-- The row `after` still shows what `before` did. Only a row that `becomesActive` may have lost its
unread messages. -/
structure DialogInfo.Keeps {w : Nat} (becomesActive : Prop) (before after : DialogInfo w) :
    Prop where
  name : after.mName = before.mName
  address : after.mAddress = before.mAddress
  moniker : after.mMoniker = before.mMoniker
  dialogId : after.mDialogId = before.mDialogId
  contactId : after.mContactId = before.mContactId
  status : after.mStatus = before.mStatus
  unreadMessages : ¬ becomesActive → after.mUnreadMessages = before.mUnreadMessages
  lastUpdated : after.mLastUpdated = before.mLastUpdated

namespace DialogInfo

variable {w : Nat} (info : DialogInfo w) (becomesActive : Prop)

theorem keeps_self : info.Keeps becomesActive info where
  name := rfl
  address := rfl
  moniker := rfl
  dialogId := rfl
  contactId := rfl
  status := rfl
  unreadMessages _ := rfl
  lastUpdated := rfl

variable {becomesActive}

theorem keeps_messagesReaded (isActive : becomesActive) :
    info.Keeps becomesActive info.messagesReaded where
  name := rfl
  address := rfl
  moniker := rfl
  dialogId := rfl
  contactId := rfl
  status := rfl
  unreadMessages other := absurd isActive other
  lastUpdated := rfl

end DialogInfo

namespace DialogUserModel

variable {w : Nat}

section

variable (model : DialogUserModel w) (clock : Nat → Int) (obj : Dialog w)

/-- The rows that stay when that of the dialog is removed. -/
def remaining (dialogId : Str) : List (DialogInfo w) :=
  model.mDialogsInfo.eraseIdx (model.rowOf dialogId)

/-- The rows behind that of the dialog. -/
def behind (dialogId : Str) : List (DialogInfo w) :=
  model.mDialogsInfo.drop (model.rowOf dialogId + 1)

/-- The removal leaves the other rows alone: each keeps what it shows, but for the unread messages
of the first row when the active dialog is the one removed, and the rows are in the order in which
they were. -/
structure LeavesOthersAlone : Prop where
  length :
    (model.removed clock obj).mDialogsInfo.length = (model.remaining obj.mDialogId).length
  keeps : ∀ (place : Nat) (before after : DialogInfo w),
    (model.remaining obj.mDialogId)[place]? = some before →
      (model.removed clock obj).mDialogsInfo[place]? = some after →
        before.Keeps (place = 0 ∧ model.activeDialog = obj.mDialogId) after
  order : ∀ i j : Nat,
    Option.map₂ lessThan (model.removed clock obj).mDialogsInfo[i]?
        (model.removed clock obj).mDialogsInfo[j]? =
      Option.map₂ lessThan (model.remaining obj.mDialogId)[i]? (model.remaining obj.mDialogId)[j]?

/-- What the removal makes of the row that stays at `place`. -/
def afterRemoval (place : Nat) (info : DialogInfo w) : DialogInfo w :=
  let row := model.rowOf obj.mDialogId
  let moved := if row ≤ place then info.assign (clock (place - row)) else info
  if place = 0 ∧ model.activeDialog = obj.mDialogId then moved.messagesReaded else moved

theorem mLastUpdated_afterRemoval (place : Nat) (info : DialogInfo w) :
    (model.afterRemoval clock obj place info).mLastUpdated =
      if model.rowOf obj.mDialogId ≤ place then clock (place - model.rowOf obj.mDialogId)
      else info.mLastUpdated := by
  rw [afterRemoval]
  split_ifs <;> rfl

theorem mStatus_afterRemoval (place : Nat) (info : DialogInfo w) :
    (model.afterRemoval clock obj place info).mStatus = info.mStatus := by
  rw [afterRemoval]
  split_ifs <;> rfl

variable {model clock obj}

/-- But for the time, a row that stays keeps what it shows. -/
theorem keeps_afterRemoval {place : Nat} {info : DialogInfo w}
    (time : model.rowOf obj.mDialogId ≤ place →
      info.mLastUpdated = clock (place - model.rowOf obj.mDialogId)) :
    info.Keeps (place = 0 ∧ model.activeDialog = obj.mDialogId)
      (model.afterRemoval clock obj place info) := by
  have moved : (if model.rowOf obj.mDialogId ≤ place
      then info.assign (clock (place - model.rowOf obj.mDialogId)) else info) = info := by
    split_ifs with behind
    · rw [← time behind]
      rfl
    · rfl
  rw [afterRemoval, moved]
  split_ifs with becomesActive
  · exact info.keeps_messagesReaded becomesActive
  · exact info.keeps_self _

/-- The rows after a removal, place by place. -/
theorem getElem?_removed {gone : DialogInfo w}
    (found : model.mDialogsInfo[model.rowOf obj.mDialogId]? = some gone) (place : Nat) :
    (model.removed clock obj).mDialogsInfo[place]? =
      (model.remaining obj.mDialogId)[place]?.map (model.afterRemoval clock obj place) := by
  have erased : (erase clock model.mDialogsInfo (model.rowOf obj.mDialogId))[place]? =
      (model.remaining obj.mDialogId)[place]?.map fun info =>
        if model.rowOf obj.mDialogId ≤ place
        then info.assign (clock (place - model.rowOf obj.mDialogId)) else info := by
    rw [getElem?_erase clock (model.rowOf_le _), remaining, List.getElem?_eraseIdx]
    by_cases front : place < model.rowOf obj.mDialogId
    · simp [front, Nat.not_le.mpr front]
    · simp [front, Nat.not_lt.mp front]
  rw [mDialogsInfo_removed clock obj found]
  split_ifs with isActive
  · rw [List.getElem?_modify, erased, Option.map_eq_map, Option.map_map]
    congr 1
    funext info
    rw [Function.comp_apply, afterRemoval]
    by_cases first : place = 0
    · simp [first, isActive]
    · simp [first, Ne.symm first]
  · rw [erased]
    congr 1
    funext info
    simp [afterRemoval, isActive]

/-- A row behind the removed one stays one place in front of its own. -/
theorem getElem?_behind (k : Nat) :
    (model.behind obj.mDialogId)[k]? =
      (model.remaining obj.mDialogId)[model.rowOf obj.mDialogId + k]? := by
  rw [behind, remaining, List.getElem?_drop, List.getElem?_eraseIdx_of_ge (by omega)]
  congr 1
  omega

theorem length_removed :
    (model.removed clock obj).mDialogsInfo.length = (model.remaining obj.mDialogId).length := by
  have ids' : (model.removed clock obj).ids = model.ids.eraseIdx (model.rowOf obj.mDialogId) :=
    ids_removed clock obj
  have same := congrArg List.length ids'
  rw [ids, ids, List.length_map, List.eraseIdx_map, List.length_map] at same
  exact same

theorem leavesOthersAlone_of_found {gone : DialogInfo w}
    (found : model.mDialogsInfo[model.rowOf obj.mDialogId]? = some gone)
    (times : ∀ (k : Nat) info, (model.behind obj.mDialogId)[k]? = some info →
      info.mLastUpdated = clock k) : model.LeavesOthersAlone clock obj := by
  have kept : ∀ (place : Nat) (info : DialogInfo w),
      (model.remaining obj.mDialogId)[place]? = some info →
        info.Keeps (place = 0 ∧ model.activeDialog = obj.mDialogId)
          (model.afterRemoval clock obj place info) := by
    intro place info there
    apply keeps_afterRemoval
    intro shifted
    apply times
    rw [getElem?_behind, Nat.add_sub_cancel' shifted]
    exact there
  constructor
  case length => exact length_removed
  case keeps =>
    intro place before after there here
    rw [getElem?_removed found, there] at here
    obtain rfl := Option.some.inj here
    exact kept place before there
  case order =>
    intro i j
    rw [getElem?_removed found, getElem?_removed found]
    cases left : (model.remaining obj.mDialogId)[i]? with
    | none => rfl
    | some first =>
      cases right : (model.remaining obj.mDialogId)[j]? with
      | none => rfl
      | some second =>
        have keepsFirst := kept i first left
        have keepsSecond := kept j second right
        exact congrArg some (lessThan_congr keepsFirst.status keepsSecond.status
          keepsFirst.lastUpdated keepsSecond.lastUpdated)

theorem leavesOthersAlone_of_missing
    (missing : model.mDialogsInfo[model.rowOf obj.mDialogId]? = none) :
    model.LeavesOthersAlone clock obj := by
  have same := removed_of_missing clock obj missing
  have all : model.remaining obj.mDialogId = model.mDialogsInfo :=
    List.eraseIdx_of_length_le (List.getElem?_eq_none_iff.mp missing)
  constructor
  case length => exact length_removed
  case keeps =>
    intro place before after there here
    rw [all] at there
    rw [same, there] at here
    obtain rfl := Option.some.inj here
    exact before.keeps_self _
  case order =>
    intro i j
    rw [same, all]

/-- The removal of a row leaves the others alone exactly when each row behind it carries the time
at which it is moved. -/
theorem leavesOthersAlone_iff (model : DialogUserModel w) (clock : Nat → Int) (obj : Dialog w) :
    model.LeavesOthersAlone clock obj ↔
      ∀ k info, (model.behind obj.mDialogId)[k]? = some info → info.mLastUpdated = clock k := by
  cases found : model.mDialogsInfo[model.rowOf obj.mDialogId]? with
  | none =>
    refine iff_of_true (leavesOthersAlone_of_missing found) ?_
    intro k info there
    have length := List.getElem?_eq_none_iff.mp found
    rw [behind, List.drop_of_length_le (by omega)] at there
    cases there
  | some gone =>
    refine ⟨?_, leavesOthersAlone_of_found found⟩
    intro alone k info there
    rw [getElem?_behind] at there
    have keeps := alone.keeps _ _ _ there (by rw [getElem?_removed found, there]; rfl)
    have time := keeps.lastUpdated
    rw [mLastUpdated_afterRemoval, if_pos (Nat.le_add_right _ _), Nat.add_sub_cancel_left] at time
    exact time.symm

/-- Whatever their times were, a row in front of the removed one is afterwards older than a row of
the same rating from behind it, if the clock is past the first row's time. -/
theorem lessThan_removed {gone first second : DialogInfo w}
    (found : model.mDialogsInfo[model.rowOf obj.mDialogId]? = some gone) {i k : Nat}
    (front : i < model.rowOf obj.mDialogId) (left : model.mDialogsInfo[i]? = some first)
    (right : (model.behind obj.mDialogId)[k]? = some second)
    (rating : getRating first.mStatus = getRating second.mStatus)
    (past : first.mLastUpdated < clock k) :
    Option.map₂ lessThan (model.removed clock obj).mDialogsInfo[i]?
      (model.removed clock obj).mDialogsInfo[model.rowOf obj.mDialogId + k]? = some true := by
  have stays : (model.remaining obj.mDialogId)[i]? = some first := by
    rw [remaining, List.getElem?_eraseIdx_of_lt front, left]
  rw [getElem?_behind] at right
  rw [getElem?_removed found, getElem?_removed found, stays, right]
  apply congrArg some
  rw [lessThan, mStatus_afterRemoval, mStatus_afterRemoval, if_pos rating,
    mLastUpdated_afterRemoval, mLastUpdated_afterRemoval, if_neg (Nat.not_le.mpr front),
    if_pos (Nat.le_add_right _ _), Nat.add_sub_cancel_left]
  exact decide_eq_true past

end

namespace Sample

/-- The rows `a`, `b` and `c` of three dialogs, of which `a` was changed last. -/
def threeRows : List (Event w) :=
  twoRows ++ [.dialogAdded 3 (some contact) (dialog (str "c")),
    .dialogChanged 4 (dialog (str "a"))]

end Sample

/-- The row `c` was older than `a`, and the removal of `b` between them makes it the newer one. -/
theorem removed_between_not_leavesOthersAlone :
    ¬ (Run.after handle empty (Sample.threeRows (w := 64))).LeavesOthersAlone (fun _ => 5)
      (Sample.dialog (str "b")) := by
  intro alone
  have order := alone.order 0 1
  revert order
  decide +kernel

end DialogUserModel

end SecureDialogues
