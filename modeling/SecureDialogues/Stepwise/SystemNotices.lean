import SecureDialogues.Protocol.Receiving
import SecureDialogues.Stepwise.Saves

/-!
# The system messages about the end of a dialog

`SystemMessageGenerator::changed` (`systemmessagegenerator.cpp:35-45`) puts a message into the log
at every save of a dialog that is closed or aborted. `DialogActionHandler::handle`
(`dialogactionhandler.cpp:65-88`) saves the counter of a dialog before it looks at its status.
-/

namespace SecureDialogues

open Text Effect

section

variable {w : Nat} (p : Platform w) (env : Env w)

/-! ## Counting -/

/-- What happened to a dialog. -/
structure Tally where
  /-- The system messages about its end that were put into its log. -/
  notices : Nat
  /-- The changes of its stored status to CLOSED or ABORTED. -/
  endings : Nat
  /-- The system messages about its end since it was added to the storage. -/
  sinceAdded : Nat
  deriving DecidableEq, Repr

/-- The message is one that `SystemMessageGenerator` makes. -/
def Platform.isEndNotice (message : UserMessage) : Bool :=
  message == p.endedMessage .closed || message == p.endedMessage .aborted

/-- The messages that the log of a dialog got between two states. -/
def newMessages (dialogId : Str) (s s' : Core w) : List UserMessage :=
  (s'.mMessageContainer.messagesOf dialogId).drop (s.mMessageContainer.messagesOf dialogId).length

/-- The stored status of a dialog is CLOSED or ABORTED now, and was another one. -/
def endsIn (dialogId : Str) (s s' : Core w) : Bool :=
  match s.mDialogStorage.find dialogId, s'.mDialogStorage.find dialogId with
  | some old, some new => new.mStatus.isEnded && old.mStatus != new.mStatus
  | _, _ => false

/-- What an atomic step of an operation did to the log and to the stored dialog is counted. -/
def Tally.count (dialogId : Str) (tally : Tally) (visit : Core w × Atom w) : Tally :=
  let s' := (visit.2.exec p env visit.1).2
  let added := (newMessages dialogId visit.1 s').countP p.isEndNotice
  let kept :=
    if visit.1.mDialogStorage.has dialogId = false ∧ s'.mDialogStorage.has dialogId = true then 0
    else tally.sinceAdded
  { notices := tally.notices + added
    endings := if endsIn dialogId visit.1 s' then tally.endings + 1 else tally.endings
    sinceAdded := kept + added }

/-- The atomic steps that an input leads to. -/
def visited (input : Input w) (s : Core w) : List (Core w × Atom w) :=
  if s.alive = true then
    match Operation.steps p env (.ofInput input) with
    | some m => m.visits (Atom.exec p env) s
    | none => []
  else []

/-- An instance with the tallies of its dialogs. -/
abbrev Tallied (w : Nat) := Core w × (Str → Tally)

/-- A step of the instance and what is counted in it. -/
def Tallied.next (state : Tallied w) (step : Step w) : Tallied w :=
  (SecureDialogues.next p state.1 step, fun dialogId =>
    (visited p step.1 step.2 state.1).foldl (Tally.count p step.1 dialogId) (state.2 dialogId))

/-- A program that has never run. -/
def Tallied.initial : Tallied w := (Core.initial, fun _ => ⟨0, 0, 0⟩)

/-- After the step every dialog has one message for each of its endings, and at most one since it
was added. -/
def Tallied.OneNotice (state : Tallied w) (step : Step w) : Prop :=
  ∀ dialogId, ((state.next p step).2 dialogId).notices = ((state.next p step).2 dialogId).endings ∧
    ((state.next p step).2 dialogId).sinceAdded ≤ 1

/-- A control message arrives for a dialog that has ended, with a number above the stored one. -/
def ComesLate (s : Core w) (input : Input w) : Prop :=
  ∃ message channel dialog, input = .dispatch message channel ∧ s.alive = true ∧
    DialogActionHandler.isItYouAction message.mAction = true ∧
    Delivered p env s message channel ∧
    s.mDialogStorage.find message.mDialogId = some dialog ∧
    dialog.mPeerSequental < message.mSequentialNumber ∧ dialog.mStatus.isEnded = true

/-! ## One atomic step -/

/-- Of the stored dialogs one that has not ended is written, or none, and the handlers add no messages
about an end. -/
structure WritesOpen (visit : Core w × Atom w) : Prop where
  saves : ∀ dialog, visit.2 = .saveDialog dialog → ∃ old,
    visit.1.mDialogStorage.find dialog.mDialogId = some old ∧ old.mStatus.isEnded = false
  ordinary : ∀ dialogId message, visit.2 = .addMessage dialogId message → message.IsOrdinary

/-- A dialog that has ended is written again. -/
def WritesEnded (dialogId : Str) (visit : Core w × Atom w) : Prop :=
  ∃ dialog, visit.2 = .saveDialog dialog ∧ dialog.mDialogId = dialogId ∧
    dialog.mStatus.isEnded = true ∧
    (visit.1.mDialogStorage.find dialogId).map (·.mStatus) = some dialog.mStatus

/-- The dialog is written as one that has ended. -/
def SavesEnded (dialogId : Str) (a : Atom w) : Prop :=
  ∃ dialog, a = .saveDialog dialog ∧ dialog.mDialogId = dialogId ∧ dialog.mStatus.isEnded = true

/-- As many messages as endings. -/
def Tally.IsEven (tally : Tally) : Prop := tally.notices = tally.endings

variable {p env} {dialogId : Str} {tally : Tally} {visit : Core w × Atom w}

/-! ### The log -/

theorem newMessages_of_same {s s' : Core w}
    (same : s'.mMessageContainer.messagesOf dialogId = s.mMessageContainer.messagesOf dialogId) :
    newMessages dialogId s s' = [] := by
  rw [newMessages, same, List.drop_length]

theorem newMessages_of_addMessage {s s' : Core w} {other : Str} {message : UserMessage}
    (added : s'.mMessageContainer = s.mMessageContainer.addMessage other message) :
    newMessages dialogId s s' = if other = dialogId then [message] else [] := by
  rw [newMessages, added, MessageContainer.messagesOf_addMessage, List.drop_left]

theorem isEndNotice_endedMessage {status : Status} (ended : status.isEnded = true) :
    p.isEndNotice (p.endedMessage status) = true := by
  cases status with
  | closed => simp [Platform.isEndNotice]
  | aborted => simp [Platform.isEndNotice]
  | _ => cases ended

theorem isEndNotice_of_isOrdinary {message : UserMessage} (ordinary : message.IsOrdinary) :
    p.isEndNotice message = false := by
  rw [Platform.isEndNotice, Bool.or_eq_false_iff]
  constructor
  · apply beq_eq_false_iff_ne.mpr
    rintro rfl
    cases ordinary rfl
  · apply beq_eq_false_iff_ne.mpr
    rintro rfl
    cases ordinary rfl

/-- The container after the write of a dialog that has ended. -/
theorem change_of_ended {dialog : Dialog w} (ended : dialog.mStatus.isEnded = true) (s : Core w) :
    ((Atom.saveDialog dialog).exec p env s).2.mMessageContainer =
      s.mMessageContainer.addMessage dialog.mDialogId (p.endedMessage dialog.mStatus) := by
  rw [Atom.exec_mMessageContainer, Atom.change, if_pos ended]
  rfl

/-- The write of a dialog that has ended puts one message into its log. -/
theorem notices_of_savesEnded {a : Atom w} (saves : SavesEnded dialogId a) (s : Core w) :
    (newMessages dialogId s (a.exec p env s).2).countP p.isEndNotice = 1 := by
  obtain ⟨dialog, rfl, rfl, ended⟩ := saves
  rw [newMessages_of_addMessage (change_of_ended ended s), if_pos rfl, List.countP_singleton,
    isEndNotice_endedMessage ended]
  rfl

theorem notices_of_addMessage {s s' : Core w} {other : Str} {message : UserMessage}
    (added : s'.mMessageContainer = s.mMessageContainer.addMessage other message)
    (ordinary : message.IsOrdinary) :
    (newMessages dialogId s s').countP p.isEndNotice = 0 := by
  rw [newMessages_of_addMessage added]
  split
  · rw [List.countP_singleton, isEndNotice_of_isOrdinary ordinary]
    rfl
  · rfl

/-- Nothing else puts such a message into the log. -/
theorem notices_of_not_savesEnded {a : Atom w} (others : ¬ SavesEnded dialogId a)
    (ordinary : ∀ other message, a = .addMessage other message → message.IsOrdinary) (s : Core w) :
    (newMessages dialogId s (a.exec p env s).2).countP p.isEndNotice = 0 := by
  have same (unchanged : (s.mMessageContainer.changed (a.change p)).messagesOf dialogId =
      s.mMessageContainer.messagesOf dialogId) :
      (newMessages dialogId s (a.exec p env s).2).countP p.isEndNotice = 0 := by
    rw [newMessages_of_same (by rw [Atom.exec_mMessageContainer, unchanged])]
    rfl
  cases a with
  | saveDialog dialog =>
    by_cases ended : dialog.mStatus.isEnded = true
    · have other : dialog.mDialogId ≠ dialogId := fun sameId => others ⟨dialog, rfl, sameId, ended⟩
      rw [newMessages_of_addMessage (change_of_ended ended s), if_neg other]
      rfl
    · apply same
      rw [Atom.change, if_neg ended]
      rfl
  | addMessage other message =>
    exact notices_of_addMessage (Atom.exec_mMessageContainer _ s) (ordinary other message rfl)
  | addToActiveDialog text =>
    have changed : ((Atom.addToActiveDialog text).exec p env s).2.mMessageContainer =
        s.mMessageContainer.perform (.addToActiveDialogWithWrapper text false) :=
      Atom.exec_mMessageContainer _ s
    rw [MessageContainer.perform_addToActiveDialogWithWrapper] at changed
    split at changed
    · exact notices_of_addMessage changed (by rintro ⟨⟩)
    · exact same (congrArg (MessageContainer.messagesOf · dialogId)
        ((Atom.exec_mMessageContainer _ s).symm.trans changed))
  | setActiveDialog other => exact same (MessageContainer.messagesOf_setActiveDialog _ _ _)
  | updateMessage other number status =>
    have kinds := MessageContainer.map_messagesOf_updateMessage s.mMessageContainer other number
      status dialogId
    have length : ((s.mMessageContainer.updateMessage other number status).messagesOf
        dialogId).length = (s.mMessageContainer.messagesOf dialogId).length := by
      simpa using congrArg List.length kinds
    rw [newMessages, Atom.exec_mMessageContainer]
    show (((s.mMessageContainer.updateMessage other number status).messagesOf dialogId).drop
      _).countP _ = 0
    rw [← length, List.drop_length]
    rfl
  | _ => exact same rfl

/-! ### The stored dialog -/

/-- A stored dialog keeps its record, unless it is written or removed. -/
theorem stored_exec {a : Atom w} {s : Core w} {old new : Dialog w}
    (found : s.mDialogStorage.find dialogId = some old)
    (found' : (a.exec p env s).2.mDialogStorage.find dialogId = some new) :
    new = old ∨ a = .saveDialog new ∧ new.mDialogId = dialogId := by
  cases writes : a.writesDialogs with
  | false =>
    have same : (a.exec p env s).2.mDialogStorage = s.mDialogStorage :=
      Atom.exec_mDialogStorage p env writes s
    rw [same, found] at found'
    exact .inl (Option.some.inj found').symm
  | true =>
    cases a with
    | saveDialog dialog =>
      have written := (DialogStorage.find_put dialog dialogId).symm.trans found'
      split at written
      · rename_i sameId
        cases written
        exact .inr ⟨rfl, sameId⟩
      · exact .inl (Option.some.inj (written.symm.trans found))
    | addDialog dialog =>
      cases taken : s.mDialogStorage.has dialog.mDialogId with
      | true =>
        simp only [Atom.exec, addDialog_of_has p taken] at found'
        exact .inl (Option.some.inj (found'.symm.trans found))
      | false =>
        simp only [Atom.exec, addDialog_of_new p taken] at found'
        have written := (DialogStorage.find_put dialog dialogId).symm.trans found'
        split at written
        · rename_i sameId
          rw [DialogStorage.has, sameId, found] at taken
          cases taken
        · exact .inl (Option.some.inj (written.symm.trans found))
    | removeDialog removed =>
      have kept := (DialogStorage.find_remove removed dialogId).symm.trans found'
      split at kept
      · cases kept
      · exact .inl (Option.some.inj (kept.symm.trans found))
    | _ => cases writes

theorem endsIn_eq_true {s s' : Core w} : endsIn dialogId s s' = true ↔ ∃ old new,
    s.mDialogStorage.find dialogId = some old ∧ s'.mDialogStorage.find dialogId = some new ∧
      new.mStatus.isEnded = true ∧ old.mStatus ≠ new.mStatus := by
  unfold endsIn
  cases s.mDialogStorage.find dialogId <;> cases s'.mDialogStorage.find dialogId <;> simp

theorem savesEnded_of_endsIn {a : Atom w} {s : Core w}
    (ends : endsIn dialogId s (a.exec p env s).2 = true) : SavesEnded dialogId a := by
  obtain ⟨old, new, found, found', ended, changed⟩ := endsIn_eq_true.mp ends
  rcases stored_exec found found' with rfl | ⟨written, sameId⟩
  · exact absurd rfl changed
  · exact ⟨new, written, sameId, ended⟩

/-- The write of an open dialog as one that has ended is an ending. -/
theorem endsIn_of_savesEnded (open' : WritesOpen visit) (saves : SavesEnded dialogId visit.2) :
    endsIn dialogId visit.1 (visit.2.exec p env visit.1).2 = true := by
  obtain ⟨dialog, atom, rfl, ended⟩ := saves
  obtain ⟨old, found, notEnded⟩ := open'.saves dialog atom
  refine endsIn_eq_true.mpr ⟨old, dialog, found, ?_, ended, ?_⟩
  · rw [atom]
    exact DialogStorage.find_put_self dialog
  · intro same
    rw [same, ended] at notEnded
    cases notEnded

/-! ### The tally -/

theorem Tally.count_even (open' : WritesOpen visit) (even : tally.IsEven) :
    (tally.count p env dialogId visit).IsEven := by
  unfold Tally.IsEven Tally.count
  dsimp only
  by_cases saves : SavesEnded dialogId visit.2
  · rw [notices_of_savesEnded saves, if_pos (endsIn_of_savesEnded open' saves)]
    exact congrArg (· + 1) even
  · rw [notices_of_not_savesEnded saves open'.ordinary, if_neg fun ends =>
      saves (savesEnded_of_endsIn ends)]
    exact even

/-- There are never fewer messages than endings, and a message too many stays one. -/
theorem Tally.count_le {more : Nat} (le : tally.endings + more ≤ tally.notices) :
    (tally.count p env dialogId visit).endings + more ≤ (tally.count p env dialogId visit).notices := by
  unfold Tally.count
  dsimp only
  split
  · rename_i ends
    rw [notices_of_savesEnded (savesEnded_of_endsIn ends)]
    omega
  · omega

theorem Tally.count_lt_of_writesEnded (again : WritesEnded dialogId visit)
    (le : tally.endings ≤ tally.notices) :
    (tally.count p env dialogId visit).endings + 1 ≤ (tally.count p env dialogId visit).notices := by
  obtain ⟨dialog, atom, rfl, ended, stored⟩ := again
  obtain ⟨old, found, sameStatus⟩ := Option.map_eq_some_iff.mp stored
  have stays : ¬ endsIn dialog.mDialogId visit.1 (visit.2.exec p env visit.1).2 = true := by
    intro ends
    obtain ⟨old', new, found', written, -, changed⟩ := endsIn_eq_true.mp ends
    cases found.symm.trans found'
    rw [atom] at written
    cases (DialogStorage.find_put_self dialog).symm.trans written
    exact changed sameStatus
  unfold Tally.count
  dsimp only
  rw [if_neg stays, notices_of_savesEnded ⟨dialog, atom, rfl, ended⟩]
  omega

theorem Tally.foldl_le (more : Nat) (le : tally.endings + more ≤ tally.notices)
    (visits : List (Core w × Atom w)) :
    (visits.foldl (count p env dialogId) tally).endings + more ≤
      (visits.foldl (count p env dialogId) tally).notices := by
  induction visits generalizing tally with
  | nil => exact le
  | cons visit rest ih => exact ih (count_le le)

/-- A dialog that has ended is written again somewhere. -/
theorem Tally.foldl_lt_of_writesEnded {visits : List (Core w × Atom w)}
    (again : ∃ visit ∈ visits, WritesEnded dialogId visit) (le : tally.endings ≤ tally.notices) :
    (visits.foldl (count p env dialogId) tally).endings + 1 ≤
      (visits.foldl (count p env dialogId) tally).notices := by
  obtain ⟨visit, member, writes⟩ := again
  obtain ⟨before, after, rfl⟩ := List.append_of_mem member
  rw [List.foldl_append, List.foldl_cons]
  exact foldl_le 1 (count_lt_of_writesEnded writes (foldl_le 0 le before)) after

theorem Tally.foldl_even {visits : List (Core w × Atom w)}
    (open' : ∀ visit ∈ visits, WritesOpen visit) (even : tally.IsEven) :
    (visits.foldl (count p env dialogId) tally).IsEven := by
  induction visits generalizing tally with
  | nil => exact even
  | cons visit rest ih =>
    apply ih
    · intro later member
      exact open' later (List.mem_cons_of_mem _ member)
    · exact count_even (open' visit List.mem_cons_self) even

/-- No message since the dialog was added while it has not ended, and one at most. -/
structure Tally.IsOnce (dialogId : Str) (s : Core w) (tally : Tally) : Prop where
  atMost : tally.sinceAdded ≤ 1
  unended : ∀ dialog, s.mDialogStorage.find dialogId = some dialog →
    dialog.mStatus.isEnded = false → tally.sinceAdded = 0

theorem Tally.IsOnce.of_same {s s' : Core w} (once : tally.IsOnce dialogId s)
    (same : s'.mDialogStorage = s.mDialogStorage) : tally.IsOnce dialogId s' :=
  ⟨once.atMost, same ▸ once.unended⟩

theorem Tally.count_once_of_savesEnded (open' : WritesOpen visit)
    (once : tally.IsOnce dialogId visit.1) (saves : SavesEnded dialogId visit.2) :
    (tally.count p env dialogId visit).IsOnce dialogId (visit.2.exec p env visit.1).2 := by
  have notices : (newMessages dialogId visit.1 (visit.2.exec p env visit.1).2).countP
      p.isEndNotice = 1 := notices_of_savesEnded saves visit.1
  obtain ⟨dialog, atom, rfl, ended⟩ := saves
  obtain ⟨old, found, notEnded⟩ := open'.saves dialog atom
  have stored : visit.1.mDialogStorage.has dialog.mDialogId = true := by
    rw [DialogStorage.has, found]
    rfl
  constructor
  · unfold Tally.count
    dsimp only
    rw [notices, if_neg (by simp [stored]), once.unended old found notEnded]
  · intro saved written unended
    rw [atom] at written
    cases (DialogStorage.find_put_self dialog).symm.trans written
    rw [ended] at unended
    cases unended

theorem Tally.count_once (open' : WritesOpen visit) (once : tally.IsOnce dialogId visit.1) :
    (tally.count p env dialogId visit).IsOnce dialogId (visit.2.exec p env visit.1).2 := by
  by_cases saves : SavesEnded dialogId visit.2
  · exact count_once_of_savesEnded open' once saves
  have since : (tally.count p env dialogId visit).sinceAdded =
      if visit.1.mDialogStorage.has dialogId = false ∧
        (visit.2.exec p env visit.1).2.mDialogStorage.has dialogId = true then 0
      else tally.sinceAdded := by
    rw [count, notices_of_not_savesEnded saves open'.ordinary]
    rfl
  constructor
  · rw [since]
    split
    · exact Nat.zero_le 1
    · exact once.atMost
  · intro dialog found' unended
    rw [since]
    split
    · rfl
    rename_i known
    cases found : visit.1.mDialogStorage.find dialogId with
    | none =>
      exact absurd ⟨by rw [DialogStorage.has, found]; rfl, by rw [DialogStorage.has, found']; rfl⟩ known
    | some old =>
      rcases stored_exec found found' with rfl | ⟨written, rfl⟩
      · exact once.unended dialog found unended
      · obtain ⟨old', stored, notEnded⟩ := open'.saves dialog written
        exact once.unended old' stored notEnded

/-! ## One operation -/

/-- A dialog that has ended is not saved. -/
def openOnly : Demands where
  named _ := True
  ended := False
  incoming := True

theorem writesOpen_of_records {α : Type} {m : Steps w α} {s : Core w}
    (records : Records openOnly s.current m) :
    ∀ visit ∈ m.visits (Atom.exec p env) s, WritesOpen visit := by
  intro visit member
  obtain ⟨mirror, rfl, guard⟩ := Prog.Obeys.visits (I := fun mirror s' => mirror = s'.current)
    (fun mirror a s' same _ => same ▸ exec_mirrors p env openOnly a s') records rfl visit member
  constructor
  · intro dialog atom
    rw [atom] at guard
    obtain ⟨old, found, never | notEnded⟩ := guard
    · cases never
    · exact ⟨old, found, notEnded⟩
  · intro other added atom
    rw [atom] at guard
    exact guard.2.1

/-- No handler sees a message that is not delivered. -/
theorem writesOpen_of_not_delivered {message : DialogMessage w} {channel : Str} {s : Core w}
    (refused : ¬ Delivered p env s message channel) :
    ∀ visit ∈ (Steps.dispatchMessage p env message channel).visits (Atom.exec p env) s,
      WritesOpen visit := by
  intro visit member
  have failed : ∀ error s', visit ∈
      (Steps.despatchError p env error message channel).visits (Atom.exec p env) s' →
        WritesOpen visit := by
    intro error s' faulting
    exact writesOpen_of_records
      (Steps.recordsNothing_despatchError p env error message channel).records visit faulting
  rw [Steps.dispatchMessage, Prog.visits_bind, Steps.run_sendAck, List.mem_append] at member
  rcases member with answering | member
  · exact writesOpen_of_records (Steps.recordsNothing_sendAck env message channel).records visit
      answering
  obtain ⟨s', noted, ⟨acknowledges, outcome⟩ | ⟨-, e, outcome⟩⟩ :=
    sendAck_cases env message channel s
  swap
  · rw [outcome] at member
    cases member
  rw [outcome] at member
  dsimp only at member
  rw [Prog.visits_bind, Steps.run_isSignatureValid, List.mem_append] at member
  rcases member with checking | member
  · exact writesOpen_of_records
      (Steps.recordsNothing_isSignatureValid p env message channel).records visit checking
  by_cases valid : isSignatureOk p s'.mRemote message = .ok true
  · have expired := isExpired_of_not_delivered refused noted acknowledges valid
    rw [isSignatureValid_of_ok valid] at member
    dsimp only at member
    rw [if_neg (by simp), if_pos expired] at member
    exact failed _ _ member
  · have invalid : (isSignatureValid p env message channel s').1 ≠ .ok true :=
      (isSignatureValid_of_not_ok valid).2
    rcases outcome : isSignatureValid p env message channel s' with ⟨_ | answer, s''⟩
    · rw [outcome] at member
      cases member
    · rw [outcome] at member invalid
      cases answer with
      | true => exact absurd rfl invalid
      | false =>
        dsimp only at member
        rw [if_pos rfl] at member
        exact failed _ _ member

/-- The handler saves a dialog with the counter it accepts, whatever its status. -/
theorem handle_visits_save {message : DialogMessage w} {channel : Str} {s : Core w}
    {dialog : Dialog w} (found : s.mDialogStorage.find message.mDialogId = some dialog)
    (larger : dialog.mPeerSequental < message.mSequentialNumber) :
    (s, Atom.saveDialog { dialog with mPeerSequental := message.mSequentialNumber }) ∈
      (Steps.DialogActionHandler.handle p env message channel).visits (Atom.exec p env) s := by
  have accepted : dialog.isSequentalOk message.mSequentialNumber =
      some { dialog with mPeerSequental := message.mSequentialNumber } :=
    Dialog.isSequentalOk_eq_some.mpr ⟨larger, rfl⟩
  have stored : s.mDialogStorage.has message.mDialogId = true := by
    rw [DialogStorage.has, found]
    rfl
  have read : (Atom.wrapper message.mDialogId).exec p env s = (.ok dialog, s) :=
    wrapper_of_some p found
  rw [Steps.DialogActionHandler.handle, Prog.visits_catching, List.mem_append]
  left
  rw [Prog.visits_bind, List.mem_append]
  right
  rw [Prog.run_atom]
  dsimp only [Atom.exec, Eff.reads]
  rw [if_pos stored, Prog.visits_bind, List.mem_append]
  right
  rw [Prog.run_atom, read]
  dsimp only
  rw [accepted]
  exact List.mem_cons_self

/-- The counter of a dialog that has ended is saved. -/
theorem writesEnded_of_comesLate {input : Input w} {s : Core w} (late : ComesLate p env s input) :
    ∃ dialogId, ∃ visit ∈ visited p env input s, WritesEnded dialogId visit := by
  obtain ⟨message, channel, dialog, rfl, alive, control, delivered, found, larger, ended⟩ := late
  have noAck : message.mAction ≠ .ack := by
    intro ack
    rw [ack] at control
    cases control
  have noText : ¬ MessageActionHandler.isItYouAction message.mAction = true := by
    intro text
    rw [eq_of_beq text] at control
    cases control
  have sameId : dialog.mDialogId = message.mDialogId := DialogStorage.mDialogId_of_find found
  refine ⟨message.mDialogId, (ackedState env s message channel,
    .saveDialog { dialog with mPeerSequental := message.mSequentialNumber }), ?_, _, rfl, sameId,
    ended, ?_⟩
  swap
  · exact congrArg (Option.map (·.mStatus)) found
  have valid : isSignatureOk p (ackedState env s message channel).mRemote message = .ok true :=
    delivered.signatureOk
  show _ ∈ if s.alive = true then
    (Steps.dispatch p env message channel).visits (Atom.exec p env) s else []
  rw [if_pos alive, Steps.dispatch, Prog.visits_noexcept, if_neg noAck, Steps.dispatchMessage,
    Prog.visits_bind, Steps.run_sendAck, sendAck_of_acknowledges delivered.acknowledges,
    List.mem_append]
  right
  dsimp only
  rw [Prog.visits_bind, Steps.run_isSignatureValid, isSignatureValid_of_ok valid, List.mem_append]
  right
  dsimp only
  rw [if_neg (by simp), if_neg delivered.recent, Steps.runHandlers, if_neg noText]
  dsimp only
  rw [if_pos control]
  exact handle_visits_save found larger

/-- What an input that is not late makes a demand of. -/
theorem writesOpen_of_timely {input : Input w} {s : Core w} (timely : ¬ ComesLate p env s input) :
    ∀ visit ∈ visited p env input s, WritesOpen visit := by
  intro visit member
  unfold visited at member
  split at member
  swap
  · cases member
  rename_i alive
  cases steps : Operation.steps p env (.ofInput input) with
  | none =>
    rw [steps] at member
    cases member
  | some m =>
    rw [steps] at member
    have writes (permitted : openOnly.Permit env s input) : WritesOpen visit :=
      writesOpen_of_records (records_ofInput p env steps permitted) visit member
    cases input with
    | createDialog contact => exact writes trivial
    | sendMessage text => exact writes trivial
    | dispatch message channel =>
      by_cases control : DialogActionHandler.isItYouAction message.mAction = true
      swap
      · exact writes ⟨fun _ => trivial, fun _ => trivial, fun handled => absurd handled control⟩
      by_cases delivered : Delivered p env s message channel
      · refine writes ⟨fun _ => trivial, fun _ => trivial, fun _ => .inr ?_⟩
        intro dialog found larger
        by_contra ended
        exact timely ⟨message, channel, dialog, rfl, alive, control, delivered, found, larger,
          eq_true_of_ne_false ended⟩
      · have noAck : message.mAction ≠ .ack := by
          intro ack
          rw [ack] at control
          cases control
        cases steps
        dsimp only at member
        rw [Steps.dispatch, Prog.visits_noexcept, if_neg noAck] at member
        exact writesOpen_of_not_delivered delivered visit member
    | _ => exact writes trivial

/-! ## One step of the instance -/

variable {state : Tallied w} {step : Step w}

theorem Tallied.next_even_iff (even : ∀ dialogId, (state.2 dialogId).IsEven) :
    (∀ dialogId, ((state.next p step).2 dialogId).IsEven) ↔
      ¬ ComesLate p step.1 state.1 step.2 := by
  constructor
  · intro kept late
    obtain ⟨dialogId, again⟩ := writesEnded_of_comesLate late
    have more : ((state.next p step).2 dialogId).endings + 1 ≤
        ((state.next p step).2 dialogId).notices :=
      Tally.foldl_lt_of_writesEnded again (even dialogId).ge
    exact (Nat.lt_of_succ_le more).ne' (kept dialogId)
  · intro timely dialogId
    exact Tally.foldl_even (writesOpen_of_timely timely) (even dialogId)

theorem Tallied.next_once (timely : ¬ ComesLate p step.1 state.1 step.2)
    (once : (state.2 dialogId).IsOnce dialogId state.1) :
    ((state.next p step).2 dialogId).IsOnce dialogId (state.next p step).1 := by
  have open' := writesOpen_of_timely timely
  show ((visited p step.1 step.2 state.1).foldl (Tally.count p step.1 dialogId) _).IsOnce dialogId
    (exec p step.1 step.2 state.1)
  unfold visited at open' ⊢
  by_cases restart : step.2 = .restart
  · rw [restart, exec_restart]
    have nothing : (if state.1.alive = true then
        match Operation.steps p step.1 (.ofInput .restart) with
        | some m => m.visits (Atom.exec p step.1) state.1
        | none => [] else []) = [] := by
      split <;> rfl
    rw [nothing]
    exact once.of_same rfl
  by_cases alive : state.1.alive = true
  swap
  · rw [exec_of_dead p _ (by simp [alive, restart]), if_neg alive]
    exact once
  obtain ⟨running, stepped⟩ := exec_of_alive p step.1 step.2 alive
  rw [stepped, if_pos alive]
  rw [if_pos alive] at open'
  cases steps : Operation.steps p step.1 (.ofInput step.2) with
  | none =>
    obtain ⟨contacts, remote, channels, same⟩ := perform_of_none p step.1 steps restart state.1
    rw [same]
    exact once.of_same rfl
  | some m =>
    rw [steps] at open'
    have run : m.run (Atom.exec p step.1) = perform p step.1 step.2 :=
      Operation.run_steps p step.1 steps
    rw [← run]
    have kept := Prog.visits_foldl (J := fun s (tally : Tally) => tally.IsOnce dialogId s)
      (Atom.exec p step.1) m once fun visit member _ before =>
        Tally.count_once (open' visit member) before
    exact kept.of_same rfl

/-! ## Runs -/

/-- In every run of a program that has never run, each dialog gets one system message for each
change of its status to CLOSED or ABORTED, and at most one before it is added anew, exactly if no
delivered control message for a dialog that has ended has a number above the stored one. -/
theorem one_system_notice_iff (p : Platform w) (steps : List (Step w)) :
    Run.Along (Tallied.next p) (Tallied.OneNotice p) Tallied.initial steps ↔
      Run.Along (Tallied.next p) (fun state step => ¬ ComesLate p step.1 state.1 step.2)
        Tallied.initial steps := by
  constructor
  · intro along
    have even : Run.Along (Tallied.next p)
        (fun state step => ∀ dialogId, ((state.next p step).2 dialogId).IsEven)
        Tallied.initial steps := along.mono fun _ _ one dialogId => (one dialogId).1
    refine (Run.along_iff_along (I := fun _ => True)
      (W := fun state => ∀ dialogId, (state.2 dialogId).IsEven) (fun _ _ _ => trivial) ?_ trivial
      (fun _ => rfl) steps).mp even
    intro state step _ before
    exact Tallied.next_even_iff before
  · intro timely
    have kept : ∀ (state : Tallied w) (step : Step w), (∀ dialogId, (state.2 dialogId).IsEven ∧
        (state.2 dialogId).IsOnce dialogId state.1) → ¬ ComesLate p step.1 state.1 step.2 →
        ∀ dialogId, ((state.next p step).2 dialogId).IsEven ∧
          ((state.next p step).2 dialogId).IsOnce dialogId (state.next p step).1 := by
      intro state step before timely dialogId
      exact ⟨(Tallied.next_even_iff fun other => (before other).1).mpr timely dialogId,
        Tallied.next_once timely (before dialogId).2⟩
    refine Run.along_of_invariant kept ?_ ?_ timely
    · intro state step before timely dialogId
      obtain ⟨even, once⟩ := kept state step before timely dialogId
      exact ⟨even, once.atMost⟩
    · intro dialogId
      exact ⟨rfl, Nat.zero_le 1, fun _ _ _ => rfl⟩

end

/-- The peer aborts the dialog and aborts it again. -/
theorem second_system_notice :
    ¬ Run.Along (Tallied.next Sample.platform) (Tallied.OneNotice Sample.platform) Tallied.initial
      [(Sample.env, .saveContact Sample.peer), (Sample.env, .addChannel Sample.channel 60),
        (Sample.env, .createDialog Sample.peer), Sample.receive .abort 1 [],
        Sample.receive .abort 2 []] := by
  intro along
  obtain ⟨-, -, -, -, last, -⟩ := along
  exact absurd (last (str "dialog")).1 (by decide +kernel)

end SecureDialogues
