import SecureDialogues.Stepwise.OutgoingActions

/-!
# Operations that run at the same time

The user's operations, the receive cycles of the channels and the thread that looks for overdue
deliveries interleave at their atomic steps. Every operation works on its own copy of a dialog's
record and writes the whole record back, so a status that was stored in between is lost. As long as
each write finds the status that its operation has last seen, the stored statuses follow the state
machine.
-/

namespace SecureDialogues

open Text Effect

section

variable {w : Nat}

/-- The operations that run at the same time: the user's, the receive cycle of a channel as a whole
or one of its handlers, and the callbacks of a delivery, from the checking thread or alone. -/
inductive Concurrent (w : Nat) where
  | createDialog (contact : Contact)
  | closeDialog (dialogId : Str)
  | abortDialog (dialogId : Str)
  | sendMessage (text : Str)
  | dispatch (message : DialogMessage w) (channelName : Str)
  | handleDialogAction (message : DialogMessage w) (channel : Str)
  | handleMessageAction (message : DialogMessage w) (channel : Str)
  | expire (k : NumberedKey w)
  | removed (handler : DeliveryHandler)
  | timeouted (handler : DeliveryHandler)
  deriving DecidableEq

variable (p : Platform w)

/-- The steps of an operation. -/
def Concurrent.steps (env : Env w) : Concurrent w → Steps w Unit
  | .createDialog contact => Steps.DialogActionHandler.createDialog p env contact
  | .closeDialog dialogId => Steps.DialogActionHandler.closeDialog p env dialogId
  | .abortDialog dialogId => Steps.DialogActionHandler.abortDialog p env dialogId
  | .sendMessage text => Steps.MessageActionHandler.sendMessage p env text
  | .dispatch message channelName => Steps.dispatch p env message channelName
  | .handleDialogAction message channel => Steps.DialogActionHandler.handle p env message channel
  | .handleMessageAction message channel => Steps.MessageActionHandler.handle p env message channel
  | .expire k => Steps.expireEntry p env k
  | .removed handler => Steps.removed p handler
  | .timeouted handler => Steps.timeouted p env handler

/-- The record that a step writes back. -/
def Atom.saved : Atom w → Option (Dialog w)
  | .saveDialog dialog => some dialog
  | _ => none

/-- What the operations that run at the same time have to do with dialogs. -/
def lastingRules : Rules where
  checked := False
  quiet := False
  lasting := True
  acknowledges := True

/-- The operations in progress over the state that they share. -/
abbrev Threads (w : Nat) := Pool (Atom w) Atom.Result Exn Notes (Env w) (Core w)

namespace Threads

/-- The next thing that happens: an operation is started, or one of them makes a step. -/
abbrev Turn (w : Nat) := Schedule (Env w) (Concurrent w)

/-- The step relation of the operations in progress. -/
def next (threads : Threads w) (turn : Turn w) : Threads w :=
  threads.step (discipline lastingRules) (Atom.exec p) (Concurrent.steps p) (fun _ => .unseen) turn

/-- No operation is in progress. -/
def idle (s : Core w) : Threads w where
  state := s
  threads := []

/-- The next step does not write a copy of a dialog over a status that its operation has not
seen. -/
def IsUpToDate (threads : Threads w) (turn : Turn w) : Prop :=
  ∀ made ∈ threads.upcoming turn, ∀ dialog ∈ made.2.saved,
    (made.1 dialog.mDialogId).IsTrue (threads.state.mDialogStorage.find dialog.mDialogId)

instance (threads : Threads w) (turn : Turn w) : Decidable (threads.IsUpToDate turn) :=
  inferInstanceAs (Decidable (∀ made ∈ threads.upcoming turn, ∀ dialog ∈ made.2.saved, _))

end Threads

/-- Every stored dialog stays, with its status or with one that the state machine allows after
it. -/
def StatusesFollow (s s' : Core w) : Prop :=
  ∀ dialogId dialog, s.mDialogStorage.find dialogId = some dialog →
    ∃ dialog', s'.mDialogStorage.find dialogId = some dialog' ∧
      (dialog'.mStatus = dialog.mStatus ∨
        isStateTransitionAllowed dialog.mStatus dialog'.mStatus = true)

variable {p}

theorem StatusesFollow.refl (s : Core w) : StatusesFollow s s :=
  fun _ dialog found => ⟨dialog, found, .inl rfl⟩

instance : Std.Refl (StatusesFollow (w := w)) := ⟨StatusesFollow.refl⟩

/-- An ended dialog keeps its status for ever. -/
theorem StatusesFollow.ended {s s' : Core w} (follow : StatusesFollow s s') {dialogId : Str}
    {status : Status} (ended : status.isEnded = true)
    (stored : (s.mDialogStorage.find dialogId).map (·.mStatus) = some status) :
    (s'.mDialogStorage.find dialogId).map (·.mStatus) = some status := by
  obtain ⟨dialog, found, rfl⟩ := Option.map_eq_some_iff.mp stored
  obtain ⟨dialog', found', same | allowed⟩ := follow dialogId dialog found
  · rw [found']
    exact congrArg some same
  · cases status : dialog.mStatus <;> rw [status] at ended allowed <;> cases ended <;> cases allowed

/-- Each of the operations keeps the discipline, from its start on. -/
theorem Concurrent.keeps (env : Env w) (operation : Concurrent w) :
    Keeps lastingRules (fun _ => .unseen) (operation.steps p env) := by
  have loud : ¬ lastingRules.quiet := id
  have unchecked : ¬ lastingRules.checked := id
  cases operation with
  | createDialog contact => exact Steps.DialogActionHandler.keeps_createDialog p env contact
  | closeDialog dialogId => exact Steps.DialogActionHandler.keeps_closeDialog p env dialogId
  | abortDialog dialogId => exact Steps.DialogActionHandler.keeps_abortDialog p env dialogId
  | sendMessage text => exact Steps.MessageActionHandler.keeps_sendMessage p env loud text
  | dispatch message channelName =>
    exact Steps.keeps_dispatch p env channelName (fun _ => loud) fun _ => trivial
  | handleDialogAction message channel =>
    exact Steps.DialogActionHandler.keeps_handle p env message channel
  | handleMessageAction message channel =>
    exact Steps.MessageActionHandler.keeps_handle p env message channel
  | expire k => exact Steps.keeps_expireEntry p env loud unchecked k
  | removed handler => exact Steps.keeps_removed p fun _ _ _ => loud
  | timeouted handler =>
    exact Steps.keeps_timeouted p env (fun _ _ _ => loud) fun _ _ _ _ _ => unchecked

theorem StatusesFollow.of_same {s s' : Core w} (same : s'.mDialogStorage = s.mDialogStorage) :
    StatusesFollow s s' := by
  intro dialogId dialog found
  rw [same]
  exact ⟨dialog, found, .inl rfl⟩

/-- A record that is written back on top of the status its operation has seen. -/
theorem statusesFollow_save {notes : Notes} {dialog : Dialog w} {s : Core w}
    (allowed : notes.MaySave dialog)
    (upToDate : (notes dialog.mDialogId).IsTrue (s.mDialogStorage.find dialog.mDialogId)) :
    StatusesFollow s (s.saveDialog p dialog) := by
  intro dialogId before found
  by_cases same : dialog.mDialogId = dialogId
  · obtain ⟨old, seen, follows⟩ := allowed
    rw [seen, same, found] at upToDate
    obtain rfl : before.mStatus = old := Option.some.inj upToDate
    refine ⟨dialog, ?_, follows⟩
    show (s.mDialogStorage.put dialog).find dialogId = some dialog
    rw [← same]
    exact DialogStorage.find_put_self dialog
  · refine ⟨before, ?_, .inl rfl⟩
    show (s.mDialogStorage.put dialog).find dialogId = some before
    rw [find_put_of_ne same]
    exact found

/-- A dialog is added under an identifier that is not stored. -/
theorem statusesFollow_add (dialog : Dialog w) (s : Core w) :
    StatusesFollow s (addDialog p dialog s).2 := by
  cases taken : s.mDialogStorage.has dialog.mDialogId with
  | true =>
    rw [addDialog_of_has p taken]
    exact .refl s
  | false =>
    rw [addDialog_of_new p taken]
    intro dialogId before found
    refine ⟨before, ?_, .inl rfl⟩
    have other : dialog.mDialogId ≠ dialogId := by
      rintro rfl
      rw [has_eq_false.mp taken] at found
      cases found
    show (s.mDialogStorage.put dialog).find dialogId = some before
    rw [find_put_of_ne other]
    exact found

/-- One atomic step of an operation that keeps the discipline. -/
theorem statusesFollow_exec (env : Env w) {notes : Notes} {a : Atom w} {s : Core w}
    (guard : (discipline lastingRules).guard notes a)
    (upToDate : ∀ dialog ∈ a.saved,
      (notes dialog.mDialogId).IsTrue (s.mDialogStorage.find dialog.mDialogId)) :
    StatusesFollow s (a.exec p env s).2 := by
  cases a with
  | saveDialog dialog => exact statusesFollow_save guard (upToDate dialog rfl)
  | addDialog dialog => exact statusesFollow_add dialog s
  | removeDialog dialogId => exact absurd trivial guard
  | _ => exact .of_same (Atom.exec_mDialogStorage p env rfl s)

/-! ## Runs -/

/-- Whatever the others have done to the state, a record is read under its own identifier. -/
theorem exec_possible (env : Env w) (rules : Rules) (notes : Notes) (a : Atom w) (s : Core w) :
    (discipline rules).possible notes a (a.exec p env s).1 := by
  cases a with
  | wrapper dialogId =>
    cases found : s.mDialogStorage.find dialogId with
    | none =>
      simp only [Atom.exec, wrapper_of_none p found]
      trivial
    | some dialog =>
      simp only [Atom.exec, wrapper_of_some p found]
      exact DialogStorage.mDialogId_of_find found
  | _ => trivial

theorem isDisciplined_next {threads : Threads w}
    (disciplined : threads.IsDisciplined (discipline lastingRules)) (turn : Threads.Turn w) :
    (Threads.next p threads turn).IsDisciplined (discipline lastingRules) :=
  disciplined.step (fun env operation => operation.keeps env)
    (fun env notes a s => exec_possible env lastingRules notes a s) turn

theorem statusesFollow_next {threads : Threads w}
    (disciplined : threads.IsDisciplined (discipline lastingRules)) {turn : Threads.Turn w}
    (upToDate : threads.IsUpToDate turn) :
    StatusesFollow threads.state (Threads.next p threads turn).state := by
  apply disciplined.state_step
  intro env notes a upcoming guard
  apply statusesFollow_exec env guard
  intro dialog saved
  exact upToDate (notes, a) upcoming dialog saved

/-- In every interleaving in which no step writes a copy of a dialog over a status that its
operation has not seen, every change of a stored status is a transition of the state machine, and
an ended dialog keeps its status. -/
theorem statuses_follow (s : Core w) (turns : List (Threads.Turn w))
    (upToDate : Run.Along (Threads.next p) Threads.IsUpToDate (.idle s) turns) :
    Run.Along (Threads.next p)
        (fun threads turn => StatusesFollow threads.state (Threads.next p threads turn).state)
        (.idle s) turns ∧
      ∀ before later, turns = before ++ later → ∀ dialogId (status : Status),
        status.isEnded = true →
        ((Run.after (Threads.next p) (.idle s) before).state.mDialogStorage.find dialogId).map
          (·.mStatus) = some status →
        ((Run.after (Threads.next p) (.idle s) turns).state.mDialogStorage.find dialogId).map
          (·.mStatus) = some status := by
  have follow : Run.Along (Threads.next p)
      (fun threads turn => StatusesFollow threads.state (Threads.next p threads turn).state)
      (.idle s) turns := by
    apply Run.along_of_invariant (I := fun threads =>
      Pool.IsDisciplined (discipline lastingRules) threads) _ _ _ upToDate
    · intro threads turn disciplined _
      exact isDisciplined_next disciplined turn
    · intro threads turn disciplined upToDate
      exact statusesFollow_next disciplined upToDate
    · intro thread member
      cases member
  refine ⟨follow, ?_⟩
  rintro before later rfl dialogId status ended stored
  rw [Run.after_append]
  apply Run.invariant_after (I := fun threads : Threads w =>
    (threads.state.mDialogStorage.find dialogId).map (·.mStatus) = some status) _ stored
    ((Run.along_append _ _ _ _).mp follow).2
  intro threads turn stored follow
  exact follow.ended ended stored

end

namespace Sample

/-- The user closes the dialog: everything up to the save of the copy. -/
def closing : List (Threads.Turn 64) :=
  .start env (.closeDialog (str "dialog")) :: List.replicate 8 (.advance 0)

/-- The receive cycle handles the ACK of the CLOSE_DIALOG, as thread `i`. -/
def acknowledging (i : Nat) : List (Threads.Turn 64) :=
  .start env (.dispatch (incoming .ack 8 []) channel) :: List.replicate 4 (.advance i)

/-- The status of the one dialog after some turns over an established dialog. -/
def statusAfter (turns : List (Threads.Turn 64)) : Option Status :=
  ((Run.after (Threads.next platform) (.idle (run established)) turns).state.mDialogStorage.find
    (str "dialog")).map (·.mStatus)

end Sample

/-- The ACK comes after the user's operation has finished. -/
theorem sample_statuses_follow :
    Run.Along (Threads.next Sample.platform)
        (fun threads turn =>
          StatusesFollow threads.state (Threads.next Sample.platform threads turn).state)
        (.idle (Sample.run Sample.established))
        (Sample.closing ++ [.advance 0] ++ Sample.acknowledging 1) ∧
      Sample.statusAfter (Sample.closing ++ [.advance 0] ++ Sample.acknowledging 1) =
        some .closed :=
  ⟨(statuses_follow (p := Sample.platform) _ _ (by decide +kernel)).1, by decide +kernel⟩

/-- The ACK is handled before the user's operation saves its copy: the dialog is CLOSED and becomes
ACTIVE again. -/
theorem closed_dialog_reopened :
    Sample.statusAfter (Sample.closing ++ Sample.acknowledging 1) = some .closed ∧
      Sample.statusAfter (Sample.closing ++ Sample.acknowledging 1 ++ [.advance 0]) =
        some .active ∧
      ¬ Run.Along (Threads.next Sample.platform)
        (fun threads turn =>
          StatusesFollow threads.state (Threads.next Sample.platform threads turn).state)
        (.idle (Sample.run Sample.established))
        (Sample.closing ++ Sample.acknowledging 1 ++ [.advance 0]) := by
  have closed : Sample.statusAfter (Sample.closing ++ Sample.acknowledging 1) = some .closed := by
    decide +kernel
  have active : Sample.statusAfter (Sample.closing ++ Sample.acknowledging 1 ++ [.advance 0]) =
      some .active := by
    decide +kernel
  refine ⟨closed, active, ?_⟩
  intro follow
  rw [Run.along_append] at follow
  have kept := StatusesFollow.ended follow.2.1 rfl closed
  rw [Sample.statusAfter, Run.after_append] at active
  have same := kept.symm.trans active
  cases same

end SecureDialogues
