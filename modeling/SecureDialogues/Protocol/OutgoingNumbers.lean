import SecureDialogues.Protocol.Sound

/-!
# Outgoing sequence numbers

The messages of a dialog take their numbers from a counter that lives in the stored record. The
numbers grow as long as every copy of the record whose counter was advanced is saved; the answer to
a CREATE_DIALOG does not save it, and an exception of the channel prevents it.
-/

namespace SecureDialogues

open Text Effect

section

variable {w : Nat} (p : Platform w)

/-- A peer accepts the numbers one after the other. -/
def accepts (peer : Dialog w) (numbers : List (BitVec w)) : Bool :=
  (numbers.foldlM Dialog.isSequentalOk peer).isSome

/-- The numbers handed to a channel for a stored dialog grow strictly, and a peer whose counter is
below the first one accepts them all. -/
def NumbersIncrease (s : Core w) : Prop :=
  ∀ dialogId dialog, s.mDialogStorage.find dialogId = some dialog →
    (handedNumbers dialogId s.log).Pairwise (· < ·) ∧
      ∀ peer : Dialog w, (∀ number ∈ (handedNumbers dialogId s.log).head?,
        peer.mPeerSequental < number) → accepts peer (handedNumbers dialogId s.log) = true

/-- No control message that the step hands to a channel fails to be transmitted, no counter wraps
around, and no CREATE_DIALOG is answered with a VERIFY_KEY. -/
structure SavesCounters (s : Core w) (step : Step w) : Prop where
  sends : ¬ SendFails s (next p s step).log
  bounded : ∀ dialogId dialog, s.mDialogStorage.find dialogId = some dialog →
    dialog.mThisSequental ≠ maxSequential w
  unanswered : ∀ message channel, step.2 = .dispatch message channel →
    ¬ IsAnsweredWithKey p step.1 s message channel

/-! ## Numbers up to a counter -/

/-- The numbers grow strictly and the counter bounds them. -/
structure Counted (numbers : List (BitVec w)) (counter : BitVec w) : Prop where
  increasing : numbers.Pairwise (· < ·)
  bounded : ∀ number ∈ numbers, number ≤ counter

theorem lt_next {counter : BitVec w} (small : counter ≠ maxSequential w) :
    counter < counter + 1 := by
  have bound := counter.isLt
  have top : counter.toNat ≠ 2 ^ w - 1 := fun same =>
    small (BitVec.eq_of_toNat_eq (by rw [maxSequential, BitVec.toNat_allOnes, same]))
  rw [BitVec.lt_def, BitVec.toNat_add, show (1 : BitVec w) = 1#w from rfl, BitVec.toNat_ofNat,
    Nat.add_mod_mod, Nat.mod_eq_of_lt (by omega)]
  omega

variable {p} {numbers : List (BitVec w)} {counter : BitVec w}

theorem counted_nil : Counted [] counter where
  increasing := .nil
  bounded := by simp

/-- The counter advances. -/
theorem Counted.skip (counted : Counted numbers counter)
    (room : numbers = [] ∨ counter ≠ maxSequential w) : Counted numbers (counter + 1) := by
  rcases room with rfl | small
  · exact counted_nil
  · refine ⟨counted.increasing, fun number member => ?_⟩
    have below := counted.bounded number member
    have next := lt_next small
    simp only [BitVec.le_def, BitVec.lt_def] at *
    omega

/-- The counter advances and its new value is handed out. -/
theorem Counted.advance (counted : Counted numbers counter)
    (room : numbers = [] ∨ counter ≠ maxSequential w) :
    Counted (numbers ++ [counter + 1]) (counter + 1) := by
  have skipped := counted.skip room
  refine ⟨List.pairwise_append.mpr ⟨counted.increasing, by simp, fun number member other isNext => ?_⟩,
    fun number member => ?_⟩
  · rw [List.mem_singleton] at isNext
    subst isNext
    rcases room with rfl | small
    · cases member
    · have below := counted.bounded number member
      have next := lt_next small
      simp only [BitVec.le_def, BitVec.lt_def] at *
      omega
  · rcases List.mem_append.mp member with old | new
    · exact skipped.bounded number old
    · rw [List.mem_singleton] at new
      exact new ▸ BitVec.le_refl _

theorem accepts_of_increasing {numbers : List (BitVec w)} (increasing : numbers.Pairwise (· < ·))
    {peer : Dialog w} (above : ∀ number ∈ numbers.head?, peer.mPeerSequental < number) :
    accepts peer numbers = true := by
  induction numbers generalizing peer with
  | nil => rfl
  | cons number rest ih =>
    obtain ⟨least, increasing⟩ := List.pairwise_cons.mp increasing
    have accepted : peer.isSequentalOk number =
        some { peer with mPeerSequental := number } :=
      Dialog.isSequentalOk_eq_some.mpr ⟨above number rfl, rfl⟩
    rw [accepts, List.foldlM_cons, accepted]
    exact ih increasing fun next first => least next (List.mem_of_mem_head? first)

/-! ## The invariant -/

/-- The numbers of every stored dialog are counted, and no expiry hands anything over. -/
structure Numbered (v : View w) : Prop where
  counted : ∀ dialogId dialog, v.dialogs dialogId = some dialog →
    Counted (handedNumbers dialogId v.log) dialog.mThisSequental
  quiet : ∀ k dialogId mNext mAbortNeed mAddress mChannel,
    v.pending k = some (.dialogAction dialogId mNext mAbortNeed mAddress mChannel) →
      mAbortNeed = false

namespace Numbered

variable {v : View w} (numbered : Numbered v)
include numbered

/-- Events that hand over nothing for a stored dialog. -/
theorem record {events : List (Event w)}
    (other : ∀ dialogId dialog, v.dialogs dialogId = some dialog →
      handedNumbers dialogId (v.log ++ events) = handedNumbers dialogId v.log) :
    Numbered (v.record events) where
  counted dialogId dialog found := by
    rw [View.record_log, other dialogId dialog found]
    exact numbered.counted dialogId dialog found
  quiet := numbered.quiet

theorem recordNotes {events : List (Event w)} (notes : ∀ event ∈ events, event.isNote = true) :
    Numbered (v.record events) :=
  numbered.record fun dialogId _ _ => handedNumbers_append_notes dialogId v.log notes

/-- An event that no number of a dialog depends on. -/
theorem recordOther {event : Event w} (other : ∀ dialogId numbers,
    handedStep dialogId numbers event = numbers) : Numbered (v.record [event]) :=
  numbered.record fun dialogId _ _ => by rw [handedNumbers_concat, other]

/-- A stored dialog is changed, but not its counter. -/
theorem updateDialog {dialog : Dialog w} (stored : ∃ before,
    v.dialogs dialog.mDialogId = some before ∧
      dialog.mThisSequental = before.mThisSequental) : Numbered (v.setDialog dialog) where
  counted dialogId other found := by
    rw [View.setDialog_dialogs] at found
    obtain ⟨before, stored, counter⟩ := stored
    split at found
    · rename_i same
      cases found
      rw [counter, View.setDialog_log, ← same]
      exact numbered.counted _ before stored
    · exact numbered.counted dialogId other found
  quiet := numbered.quiet

theorem store {k : NumberedKey w} {handler : DeliveryHandler}
    (quiet : ∀ dialogId mNext mAbortNeed mAddress mChannel,
      handler = .dialogAction dialogId mNext mAbortNeed mAddress mChannel → mAbortNeed = false) :
    Numbered (v.store k handler) where
  counted := numbered.counted
  quiet other dialogId mNext mAbortNeed mAddress mChannel found := by
    rw [View.store_pending] at found
    split at found
    · exact quiet _ _ _ _ _ (Option.some.inj found)
    · exact numbered.quiet _ _ _ _ _ _ found

theorem install (dialogId : Str) (element : DialogElement) :
    Numbered (v.install dialogId element) where
  counted := numbered.counted
  quiet := numbered.quiet

theorem drop (k : NumberedKey w) : Numbered (v.drop k) where
  counted := numbered.counted
  quiet other dialogId mNext mAbortNeed mAddress mChannel found := by
    rw [View.drop_pending] at found
    split at found
    · cases found
    · exact numbered.quiet _ _ _ _ _ _ found

theorem forget (dialogId : Str) : Numbered (v.forget dialogId) where
  counted other dialog found := by
    rw [View.forget_dialogs] at found
    split at found
    · cases found
    · exact numbered.counted other dialog found
  quiet := numbered.quiet

/-- A dialog is added: its numbers start anew. -/
theorem add {dialog : Dialog w} :
    Numbered ((v.setDialog dialog).record [.dialogAdded dialog.mDialogId]) where
  counted dialogId other found := by
    rw [View.record_dialogs, View.setDialog_dialogs] at found
    rw [View.record_log, handedNumbers_concat, handedStep]
    split at found
    · rename_i same
      rw [if_pos same]
      exact counted_nil
    · rename_i unlike
      rw [if_neg unlike]
      exact numbered.counted dialogId other found
  quiet := numbered.quiet

/-- The counter of a dialog advances, and at most the new number is handed over. -/
theorem advance {dialog : Dialog w} (stored : ∃ before,
    v.dialogs dialog.mDialogId = some before ∧
      dialog.mThisSequental = before.mThisSequental + 1 ∧
      (handedNumbers dialog.mDialogId v.log = [] ∨ before.mThisSequental ≠ maxSequential w))
    {events : List (Event w)} (once : events.length ≤ 1)
    (handed : ∀ event ∈ events, ∃ channel message sent, event = .handed channel message sent ∧
      message.mDialogId = dialog.mDialogId ∧ message.mSequentialNumber = dialog.mThisSequental) :
    Numbered ((v.record events).setDialog dialog) where
  counted dialogId other found := by
    rw [View.setDialog_dialogs] at found
    rw [View.setDialog_log, View.record_log]
    obtain ⟨before, stored, counter, room⟩ := stored
    have counted := numbered.counted _ before stored
    rcases events with _ | ⟨event, _ | ⟨next, rest⟩⟩
    · rw [List.append_nil]
      split at found
      · rename_i same
        cases found
        rw [counter, ← same]
        exact counted.skip room
      · exact numbered.counted dialogId other found
    · obtain ⟨channel, message, sent, rfl, named, number⟩ := handed event (by simp)
      rw [handedNumbers_concat, handedStep, named, number]
      split at found
      · rename_i same
        cases found
        rw [counter, ← same]
        split
        · exact counted.advance room
        · exact counted.skip room
      · rename_i unlike
        rw [if_neg fun isIt => unlike isIt.1]
        exact numbered.counted dialogId other found
    · simp at once
  quiet := numbered.quiet

end Numbered

variable {env : Env w} {start : Core w} {input : Input w}

/-- A dialog for which nothing was sent in this step has room for a number. -/
theorem Unsent.room {v : View w} {dialog : Dialog w} (unsent : Unsent start v dialog)
    (bounded : ∀ dialogId dialog, start.mDialogStorage.find dialogId = some dialog →
      dialog.mThisSequental ≠ maxSequential w) :
    handedNumbers dialog.mDialogId v.log = [] ∨ dialog.mThisSequental ≠ maxSequential w := by
  rcases unsent.counter with ⟨before, found, same, -⟩ | none
  · exact .inr (same ▸ bounded _ before found)
  · exact .inl none

/-- A message of the dialog is handed over with the next number. -/
theorem Numbered.handOver {v : View w} (numbered : Numbered v) {dialog : Dialog w} {channel : Str}
    {message : DialogMessage w} {sent : Bool} (stored : v.dialogs dialog.mDialogId = some dialog)
    (room : handedNumbers dialog.mDialogId v.log = [] ∨ dialog.mThisSequental ≠ maxSequential w)
    (named : message.mDialogId = dialog.mDialogId)
    (number : message.mSequentialNumber = dialog.mThisSequental + 1) :
    Numbered ((v.record [.handed channel message sent]).setDialog dialog.makeNextSequental) := by
  refine Numbered.advance numbered ?_ (by simp) ?_
  · exact ⟨_, stored, rfl, room⟩
  · intro event member
    rw [List.mem_singleton] at member
    exact ⟨_, _, _, member, named, number⟩

/-- A request that is made asks for no ABORT when it expires. -/
theorem Asks.isQuiet {dialogId : Str} {action : Action} {mNext : Status} {mAbortNeed : Bool}
    (asks : Asks env input dialogId action mNext mAbortNeed) {status : Status}
    (allowed : isMessageActionAllowed status action = true)
    (reached : status ≠ .waitKeyVerificaion) : mAbortNeed = false := by
  cases asks with
  | create | close | remove | keyVerification => rfl
  | accept => exact absurd (isMessageActionAllowed_acceptDialog.mp allowed) reached

/-- Every move of a step that saves the counters keeps the invariant. -/
theorem Numbered.move {v v' : View w} (numbered : Numbered v) (sound : Sound v)
    (saves : SavesCounters p start (env, input)) (grown : start.log.length ≤ v.log.length)
    (sends : ¬ SendFails start v'.log) (move : Move p env start input v v') : Numbered v' := by
  have bounded := saves.bounded
  cases move with
  | note note => exact numbered.recordNotes (by simpa using note)
  | strayAbort channel sent unknown =>
    apply numbered.record
    intro dialogId dialog found
    rw [handedNumbers_concat, handedStep, if_neg]
    rintro ⟨rfl, -⟩
    rw [unknown] at found
    cases found
  | takeControl _ _ _ _ stored =>
    rw [← sound.keyed _ _ stored] at stored
    refine Numbered.recordOther (Numbered.updateDialog numbered ?_) fun _ _ => rfl
    exact ⟨_, stored, rfl⟩
  | addText => exact numbered.recordOther fun _ _ => rfl
  | create => exact numbered.add
  | createByPeer => exact numbered.add
  | install element => exact Numbered.recordOther (numbered.install _ element) fun _ _ => rfl
  | request asks unsent stored allowed _ named number =>
    have quiet := asks.isQuiet allowed (sound.reached _ _ stored).2
    refine Numbered.handOver (numbered.store ?_) stored (unsent.room bounded) named number
    rintro _ _ _ _ _ ⟨⟩
    exact quiet
  | requestFailed asks _ _ _ _ requested =>
    exact absurd (sendFails grown _ (requested ▸ asks.isControl)) sends
  | verifyKey cause answered => exact absurd answered (saves.unanswered _ _ cause)
  | @skip dialog unsent stored =>
    have advanced : Numbered ((v.record []).setDialog dialog.makeNextSequental) := by
      refine Numbered.advance numbered ?_ (by simp) (by simp)
      exact ⟨_, stored, rfl, unsent.room bounded⟩
    rwa [View.record_nil] at advanced
  | sendText _ unsent stored _ named number =>
    show Numbered (((v.store _ _).record _).setDialog _)
    refine Numbered.handOver (numbered.store ?_) stored (unsent.room bounded) named number
    rintro _ _ _ _ _ ⟨⟩
  | abort _ unsent stored _ handed once =>
    refine Numbered.advance numbered ?_ once fun event member => ?_
    · have unsent := unsent.resolve_right fun vain => sends (vain.sendFails.append _)
      exact ⟨_, stored, rfl, unsent.room bounded⟩
    · obtain ⟨channel, message, shape, -, named, number⟩ := handed event member
      exact ⟨channel, message, true, shape, named, number⟩
  | abortFailed abort => exact absurd (sendFails grown _ (by rw [abort]; rfl)) sends
  | peerStatus _ _ _ _ _ _ _ _ _ _ _ _ stored => exact Numbered.updateDialog numbered ⟨_, stored, rfl⟩
  | removed _ _ _ _ stored =>
    refine Numbered.drop (Numbered.updateDialog numbered ?_) _
    exact ⟨_, stored, rfl⟩
  | endText => exact numbered.drop _
  | timeouted _ _ waiting _ stored _ handed =>
    obtain rfl := numbered.quiet _ _ _ _ _ _ waiting
    have notes := numbered.recordNotes fun event member => (handed event member).resolve_right (by simp)
    refine Numbered.drop (Numbered.updateDialog notes ?_) _
    exact ⟨_, stored, rfl⟩
  | timeoutFailed _ _ waiting handed =>
    obtain rfl := numbered.quiet _ _ _ _ _ _ waiting
    exact numbered.recordNotes fun event member => (handed event member).resolve_right (by simp)
  | remove => exact Numbered.recordOther (numbered.forget _) fun _ _ => rfl

theorem Numbered.restart {s : Core w} (numbered : Numbered s.view) : Numbered s.restart.view where
  counted dialogId dialog found := by
    rw [Core.view_log, Core.restart, handedNumbers_concat]
    exact numbered.counted dialogId dialog found
  quiet _ _ _ _ _ _ found := by
    rw [show s.restart.view.pending _ = none by simp [Core.restart, Core.view]] at found
    cases found

theorem numbered_exec {s : Core w} (inv : Sound s.view ∧ Numbered s.view)
    (saves : s.alive = true → SavesCounters p s (env, input)) :
    Sound (exec p env input s).view ∧ Numbered (exec p env input s).view :=
  exec_invariant_of_sends (I := fun v => Sound v ∧ Numbered v)
    (fun _ inv => ⟨inv.1.restart, inv.2.restart⟩) (fun alive => (saves alive).sends)
    (fun alive _ _ grown sends move inv =>
      ⟨inv.1.move move, inv.2.move inv.1 (saves alive) grown sends move⟩) inv

/-- In every state of a run whose steps all save the counters, the outgoing numbers increase. -/
theorem outgoing_numbers_increase (p : Platform w) {steps : List (Step w)}
    (saves : Run.Along (next p) (fun s step => s.alive = true → SavesCounters p s step)
      Core.initial steps) : NumbersIncrease (Run.after (next p) Core.initial steps) := by
  obtain ⟨-, numbered⟩ := Run.invariant_after (I := fun s => Sound s.view ∧ Numbered s.view)
    (fun s step inv saves => numbered_exec inv saves)
    ⟨sound_initial, fun _ _ found => by simp [Core.initial] at found,
      fun _ _ _ _ _ _ found => by simp [Core.initial, Core.view] at found⟩ saves
  intro dialogId dialog found
  have increasing := (numbered.counted dialogId dialog found).increasing
  exact ⟨increasing, fun peer above => accepts_of_increasing increasing above⟩

end

/-! ## A run of the one that asks -/

theorem sample_saves {s : Core 64} {input : Input 64}
    (sends : ¬ SendFails s (next Sample.platform s (Sample.env, input)).log)
    (bounded : ∀ entry ∈ s.mDialogStorage.records.toList,
      entry.2.mThisSequental ≠ maxSequential 64)
    (other : ∀ message channel, input = .dispatch message channel →
      message.mAction ≠ .createDialog) : SavesCounters Sample.platform s (Sample.env, input) where
  sends := sends
  bounded dialogId dialog found := bounded (dialogId, dialog) (by
    rw [Std.ExtTreeMap.mem_toList_iff_getElem?_eq_some]
    exact found)
  unanswered message channel cause answered := other message channel cause answered.action

/-- The one that asks sends CREATE_DIALOG, KEY_VERIFICATION, a text and CLOSE_DIALOG. -/
theorem conversation_numbers_increase :
    handedNumbers (str "dialog") (Sample.run Sample.conversation).log = [6, 7, 8, 9] ∧
      NumbersIncrease (Sample.run Sample.conversation) := by
  refine ⟨by decide +kernel, outgoing_numbers_increase Sample.platform ?_⟩
  refine ⟨fun _ => sample_saves ?_ ?_ ?_, fun _ => sample_saves ?_ ?_ ?_,
    fun _ => sample_saves ?_ ?_ ?_, fun _ => sample_saves ?_ ?_ ?_, fun _ => sample_saves ?_ ?_ ?_,
    fun _ => sample_saves ?_ ?_ ?_, fun _ => sample_saves ?_ ?_ ?_, fun _ => sample_saves ?_ ?_ ?_,
    fun _ => sample_saves ?_ ?_ ?_, fun _ => sample_saves ?_ ?_ ?_, trivial⟩
  all_goals first
    | decide +kernel
    | rintro _ _ ⟨⟩ <;> decide

/-- The one that is asked sends VERIFY_KEY and, when its user aborts, ABORT with the same number. -/
theorem answer_number_reused : handedNumbers (str "dialog")
      (Sample.run (Sample.connect ++ [Sample.receive .createDialog 1 [],
        (Sample.env, .abortDialog (str "dialog"))])).log = [6, 6] ∧
    ¬ NumbersIncrease (Sample.run (Sample.connect ++ [Sample.receive .createDialog 1 [],
      (Sample.env, .abortDialog (str "dialog"))])) := by
  refine ⟨by decide +kernel, fun increase => ?_⟩
  obtain ⟨increasing, -⟩ :=
    increase (str "dialog") (Sample.dialog .aborted 1 6) (by decide +kernel)
  exact absurd increasing (by decide +kernel)

end SecureDialogues
