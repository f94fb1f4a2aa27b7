import SecureDialogues.Stepwise.Saves

/-!
# The empty identifier in the message container

The empty identifier stands for "no selection" in the message container.
`MessageActionHandler::sendMessage` (`messageactionhandler.cpp:111-145`) reports that nothing is
selected and goes on; the failure it then runs into is put into the log of the empty identifier.
`MessageContainer::removeDialog` (`messagecontainer.cpp:138-153`) may select that log later.
-/

namespace SecureDialogues

open Text Effect

/-! ## The entries of the container -/

namespace MessageContainer

variable {container : MessageContainer} {other : Str}

theorem mem_addMessage (dialogId : Str) (message : UserMessage) :
    other ∈ (container.addMessage dialogId message).mMessages ↔
      dialogId = other ∨ other ∈ container.mMessages := by
  simp [addMessage]

theorem mem_setActiveDialog {dialogId : Str}
    (member : other ∈ (container.setActiveDialog dialogId).mMessages) :
    other ∈ container.mMessages ∨ dialogId = other ∧ other ≠ [] := by
  unfold setActiveDialog at member
  split at member
  · exact .inl member
  rename_i named
  split at member
  · simp only [notifyPeekAllMessagesFromActive, notify, Std.ExtTreeMap.mem_insertIfNew,
      Std.LawfulEqCmp.compare_eq_iff_eq] at member
    rcases member with rfl | old
    · exact .inr ⟨rfl, named⟩
    · exact .inl old
  · exact .inl member

theorem mem_updateMessage {dialogId : Str} {number : Nat} {status : UserMessage.Status}
    (member : other ∈ (container.updateMessage dialogId number status).mMessages) :
    other ∈ container.mMessages := by
  unfold updateMessage at member
  split at member
  · exact member
  rename_i messages found
  simp only [Std.ExtTreeMap.mem_insert, Std.LawfulEqCmp.compare_eq_iff_eq] at member
  rcases member with rfl | old
  · rw [Std.ExtTreeMap.mem_iff_isSome_getElem?, found]
    rfl
  · exact old

/-- The dialog that takes the place of the active one is one of the others. -/
theorem removeDialog_selects
    (others : ∃ other ∈ container.mMessages, other ≠ container.mActiveDialog) :
    (container.removeDialog container.mActiveDialog).mActiveDialog ∈ container.mMessages ∧
      (container.removeDialog container.mActiveDialog).mActiveDialog ≠ container.mActiveDialog := by
  obtain ⟨other, member, different⟩ := others
  have left : other ∈ container.mMessages.erase container.mActiveDialog := by
    rw [Std.ExtTreeMap.mem_erase]
    exact ⟨by simpa using different.symm, member⟩
  simp only [removeDialog, if_true]
  cases least : (container.mMessages.erase container.mActiveDialog).minKey? with
  | none =>
    rw [Std.ExtTreeMap.minKey?_eq_none_iff.mp least] at left
    simp at left
  | some first =>
    have here := Std.ExtTreeMap.minKey?_mem least
    rw [Std.ExtTreeMap.mem_erase] at here
    refine ⟨here.2, ?_⟩
    intro same
    apply here.1
    rw [Std.LawfulEqCmp.compare_eq_iff_eq]
    exact same.symm

end MessageContainer

section

variable {w : Nat}

/-! ## What happens to an instance -/

/-- An input of an instance, or the removal of a dialog from its message container. -/
inductive Act (w : Nat) where
  | input (input : Input w)
  | removeMessages (dialogId : Str)
  deriving DecidableEq

/-- Incoming messages and new dialogs have an identifier. -/
def Act.IsNamed (env : Env w) : Act w → Prop
  | .input (.dispatch message _) => message.mDialogId ≠ []
  | .input (.createDialog _) => env.makeUiid ≠ []
  | _ => True

/-- An act in its outside world. -/
abbrev NamedAct (w : Nat) := { act : Env w × Act w // act.2.IsNamed act.1 }

variable (p : Platform w)

/-- The state after an act. -/
def NamedAct.next (s : Core w) (act : NamedAct w) : Core w :=
  match act.val.2 with
  | .input input => exec p act.val.1 input s
  | .removeMessages dialogId =>
    if s.alive then { s with mMessageContainer := s.mMessageContainer.removeDialog dialogId } else s

/-- No messages stand under the empty identifier. -/
def NoPhantom (s : Core w) : Prop := [] ∉ s.mMessageContainer.mMessages

/-- No dialog is stored under the empty identifier. -/
def NoneUnnamed (s : Core w) : Prop := s.mDialogStorage.find [] = none

/-- The container holds no entry for the empty identifier after the act, and if the active dialog is
removed from it while there are others, the new active one is one of those, with an identifier. -/
def NamedAct.StaysNamed (s : Core w) (act : NamedAct w) : Prop :=
  NoPhantom (act.next p s) ∧
    (s.alive = true → act.val.2 = .removeMessages s.mMessageContainer.mActiveDialog →
      (∃ other ∈ s.mMessageContainer.mMessages, other ≠ s.mMessageContainer.mActiveDialog) →
        (act.next p s).mMessageContainer.mActiveDialog ∈ s.mMessageContainer.mMessages ∧
        (act.next p s).mMessageContainer.mActiveDialog ≠ s.mMessageContainer.mActiveDialog ∧
        (act.next p s).mMessageContainer.mActiveDialog ≠ [])

/-- The user sends a text only while a dialog is selected. -/
def NamedAct.IsSelected (s : Core w) (act : NamedAct w) : Prop :=
  ∀ text, s.alive = true → act.val.2 = .input (.sendMessage text) →
    s.mMessageContainer.mActiveDialog ≠ []

/-! ## One operation -/

/-- New entries have an identifier. -/
def named : Demands where
  named dialogId := dialogId ≠ []
  ended := True
  incoming := True

variable {p} {env : Env w}

theorem noneUnnamed_exec {a : Atom w} {s : Core w} (guard : (recording named).guard s.current a)
    (unnamed : NoneUnnamed s) : NoneUnnamed (a.exec p env s).2 := by
  have put : ∀ dialog : Dialog w, dialog.mDialogId ≠ [] →
      (s.mDialogStorage.put dialog).find [] = none := by
    intro dialog other
    rw [find_put_of_ne other]
    exact unnamed
  cases a with
  | addDialog dialog =>
    show NoneUnnamed (SecureDialogues.addDialog p dialog s).2
    rw [SecureDialogues.addDialog, Eff.reads_bind]
    split
    · exact unnamed
    · exact put dialog guard
  | saveDialog dialog =>
    obtain ⟨old, found, -⟩ := guard
    apply put dialog
    intro empty
    rw [empty] at found
    exact absurd (found.symm.trans unnamed) (by simp)
  | removeDialog dialogId =>
    show (s.mDialogStorage.remove dialogId).find [] = none
    rw [DialogStorage.find_remove]
    split
    · rfl
    · exact unnamed
  | _ =>
    exact (congrArg (DialogStorage.find · []) (Atom.exec_mDialogStorage p env rfl s)).trans unnamed

theorem noPhantom_exec {a : Atom w} {s : Core w} (guard : (recording named).guard s.current a)
    (unnamed : NoneUnnamed s) (noPhantom : NoPhantom s) : NoPhantom (a.exec p env s).2 := by
  rw [NoPhantom, Atom.exec_mMessageContainer]
  cases a with
  | saveDialog dialog =>
    rw [Atom.change]
    split
    · intro member
      obtain ⟨old, found, -⟩ := guard
      rcases (MessageContainer.mem_addMessage _ _).mp member with empty | there
      · rw [empty] at found
        exact absurd (found.symm.trans unnamed) (by simp)
      · exact noPhantom there
    · exact noPhantom
  | addMessage dialogId message =>
    intro member
    rcases (MessageContainer.mem_addMessage _ _).mp member with empty | there
    · exact guard.1 empty
    · exact noPhantom there
  | setActiveDialog dialogId =>
    intro member
    rcases MessageContainer.mem_setActiveDialog member with there | ⟨-, named⟩
    · exact noPhantom there
    · exact named rfl
  | addToActiveDialog message =>
    show [] ∉ (s.mMessageContainer.perform _).mMessages
    rw [MessageContainer.perform_addToActiveDialogWithWrapper]
    split
    · rename_i entry
      intro member
      rcases (MessageContainer.mem_addMessage _ _).mp member with empty | there
      · rw [empty] at entry
        exact noPhantom entry
      · exact noPhantom there
    · exact noPhantom
  | updateMessage dialogId number status =>
    intro member
    exact noPhantom (MessageContainer.mem_updateMessage member)
  | _ => exact noPhantom

/-- An operation that names its entries. -/
theorem stays_of_records {m : Steps w Unit} {s : Core w} (records : Records named s.current m)
    (unnamed : NoneUnnamed s) :
    NoneUnnamed (m.run (Atom.exec p env) s).2 ∧
      (NoPhantom s → NoPhantom (m.run (Atom.exec p env) s).2) := by
  have steps : ∀ mirror (a : Atom w) s', (mirror = s'.current ∧ NoneUnnamed s' ∧
      (NoPhantom s → NoPhantom s')) → (recording named).guard mirror a →
        (recording named).possible mirror a (a.exec p env s').1 ∧
          (recording named).note mirror a (a.exec p env s').1 = (a.exec p env s').2.current ∧
          NoneUnnamed (a.exec p env s').2 ∧ (NoPhantom s → NoPhantom (a.exec p env s').2) := by
    intro mirror a s' kept guard
    obtain ⟨rfl, unnamed', noPhantom⟩ := kept
    obtain ⟨possible, noted⟩ := exec_mirrors p env named a s'
    refine ⟨possible, noted, noneUnnamed_exec guard unnamed', ?_⟩
    intro before
    exact noPhantom_exec guard unnamed' (noPhantom before)
  obtain ⟨-, ⟨-, kept⟩, -⟩ := Prog.Obeys.run
    (I := fun mirror s' => mirror = s'.current ∧ NoneUnnamed s' ∧ (NoPhantom s → NoPhantom s'))
    steps records ⟨rfl, unnamed, id⟩
  exact kept

/-- The text of nobody: the storage knows no dialog without an identifier, and the exception is put
into the log of the empty identifier. -/
theorem sendMessage_unselected {s : Core w} (unnamed : NoneUnnamed s)
    (unselected : s.mMessageContainer.mActiveDialog = []) (text : Str) :
    NoneUnnamed (MessageActionHandler.sendMessage p env text s).2 ∧
      ¬ NoPhantom (MessageActionHandler.sendMessage p env text s).2 := by
  have missing : ∀ s' : Core w, s'.mDialogStorage = s.mDialogStorage →
      MessageActionHandler.sendText p env [] text s' = (.error (.thrown (p.absent [])), s') := by
    intro s' same
    rw [MessageActionHandler.sendText, Eff.bind_error (wrapper_of_none p (same ▸ unnamed))]
  rw [MessageActionHandler.sendMessage, Eff.reads_bind, unselected]
  rw [if_pos rfl, notify, Eff.update_bind]
  dsimp only
  rw [Eff.catching_thrown (missing (s.record _) rfl)]
  refine ⟨unnamed, ?_⟩
  intro noPhantom
  exact noPhantom ((MessageContainer.mem_addMessage _ _).mpr (.inl rfl))

/-! ## One act -/

/-- An input names its entries, if no text is sent without a selection. -/
theorem permit_named {s : Core w} {act : NamedAct w} {input : Input w}
    (this : act.val.2 = .input input) (alive : s.alive = true) (selected : act.IsSelected s) :
    named.Permit act.val.1 s input := by
  have isNamed : (Act.input input).IsNamed act.val.1 := this ▸ act.property
  cases input with
  | createDialog contact => exact isNamed
  | sendMessage text => exact selected text alive this
  | dispatch message channelName => exact ⟨fun _ => isNamed, fun _ => trivial, fun _ => .inl trivial⟩
  | _ => trivial

theorem stays_of_selected {s : Core w} {act : NamedAct w} (unnamed : NoneUnnamed s)
    (selected : act.IsSelected s) :
    NoneUnnamed (act.next p s) ∧ (NoPhantom s → NoPhantom (act.next p s)) := by
  unfold NamedAct.next
  cases this : act.val.2 with
  | removeMessages dialogId =>
    dsimp only
    split
    · refine ⟨unnamed, ?_⟩
      intro noPhantom member
      rw [MessageContainer.removeDialog_mMessages, Std.ExtTreeMap.mem_erase] at member
      exact noPhantom member.2
    · exact ⟨unnamed, id⟩
  | input input =>
    dsimp only
    by_cases restart : input = .restart
    · rw [restart, exec_restart]
      exact ⟨unnamed, fun _ => by simp [NoPhantom, Core.restart, MessageContainer.empty]⟩
    by_cases alive : s.alive = true
    swap
    · rw [exec_of_dead p _ (by simp [alive, restart])]
      exact ⟨unnamed, id⟩
    obtain ⟨running, stepped⟩ := exec_of_alive p act.val.1 input alive
    rw [stepped]
    cases steps : Operation.steps p act.val.1 (.ofInput input) with
    | none =>
      obtain ⟨contacts, remote, channels, same⟩ :=
        perform_of_none p act.val.1 steps restart s
      rw [same]
      exact ⟨unnamed, id⟩
    | some m =>
      have run : m.run (Atom.exec p act.val.1) = perform p act.val.1 input :=
        Operation.run_steps p act.val.1 steps
      rw [← run]
      exact stays_of_records
        (records_ofInput p act.val.1 steps (permit_named this alive selected)) unnamed

/-- Whatever is done, no dialog is stored under the empty identifier. -/
theorem noneUnnamed_next {s : Core w} (act : NamedAct w) (unnamed : NoneUnnamed s) :
    NoneUnnamed (act.next p s) := by
  by_cases selected : act.IsSelected s
  · exact (stays_of_selected unnamed selected).1
  · simp only [NamedAct.IsSelected, not_forall, not_not] at selected
    obtain ⟨text, alive, this, unselected⟩ := selected
    rw [NamedAct.next, this]
    dsimp only
    obtain ⟨running, stepped⟩ := exec_of_alive p act.val.1 (.sendMessage text) alive
    rw [stepped]
    exact (sendMessage_unselected unnamed unselected text).1

theorem noPhantom_next_iff {s : Core w} (act : NamedAct w) (unnamed : NoneUnnamed s)
    (noPhantom : NoPhantom s) : NoPhantom (act.next p s) ↔ act.IsSelected s := by
  constructor
  · intro kept text alive this unselected
    rw [NamedAct.next, this] at kept
    dsimp only at kept
    obtain ⟨running, stepped⟩ := exec_of_alive p act.val.1 (.sendMessage text) alive
    rw [stepped] at kept
    exact (sendMessage_unselected unnamed unselected text).2 kept
  · intro selected
    exact (stays_of_selected unnamed selected).2 noPhantom

/-- The new active dialog has an identifier where all entries have. -/
theorem staysNamed_of_selected {s : Core w} {act : NamedAct w} (unnamed : NoneUnnamed s)
    (noPhantom : NoPhantom s) (selected : act.IsSelected s) : act.StaysNamed p s := by
  refine ⟨(noPhantom_next_iff act unnamed noPhantom).mpr selected, ?_⟩
  intro alive this others
  obtain ⟨member, different⟩ := MessageContainer.removeDialog_selects others
  rw [NamedAct.next, this]
  dsimp only
  rw [if_pos alive]
  refine ⟨member, different, ?_⟩
  intro empty
  rw [empty] at member
  exact noPhantom member

/-! ## Runs -/

/-- In every run of a program that has never run, the container never holds an entry for the empty
identifier, and no removal selects it, exactly if no text is sent while no dialog is selected. -/
theorem no_phantom_dialog_iff (p : Platform w) (acts : List (NamedAct w)) :
    Run.Along (NamedAct.next p) (NamedAct.StaysNamed p) Core.initial acts ↔
      Run.Along (NamedAct.next p) NamedAct.IsSelected Core.initial acts := by
  have start : NoneUnnamed (Core.initial : Core w) := rfl
  have empty : NoPhantom (Core.initial : Core w) := by
    simp [NoPhantom, Core.initial, MessageContainer.empty]
  constructor
  · intro stays
    have noPhantom : Run.Along (NamedAct.next p) (fun s act => NoPhantom (act.next p s))
        Core.initial acts := stays.mono fun s act stays => stays.1
    refine (Run.along_iff_along (I := NoneUnnamed) (W := NoPhantom) ?_ ?_ start empty acts).mp
      noPhantom
    · intro s act unnamed
      exact noneUnnamed_next act unnamed
    · intro s act unnamed noPhantom
      exact noPhantom_next_iff act unnamed noPhantom
  · intro selected
    refine Run.along_of_invariant (I := fun s => NoneUnnamed s ∧ NoPhantom s) ?_ ?_
      ⟨start, empty⟩ selected
    · intro s act kept selected
      obtain ⟨unnamed, noPhantom⟩ := kept
      exact ⟨noneUnnamed_next act unnamed, (noPhantom_next_iff act unnamed noPhantom).mpr selected⟩
    · intro s act kept selected
      obtain ⟨unnamed, noPhantom⟩ := kept
      exact staysNamed_of_selected unnamed noPhantom selected

end

/-- A text without a selected dialog leaves a message of nobody. -/
theorem phantom_dialog_entered :
    ¬ Run.Along (NamedAct.next Sample.platform) (NamedAct.StaysNamed Sample.platform) Core.initial
      [⟨(Sample.env, .input (.sendMessage (str "x"))), trivial⟩] := by
  intro stays
  apply stays.1.1
  decide +kernel

end SecureDialogues
