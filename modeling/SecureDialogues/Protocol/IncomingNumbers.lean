import SecureDialogues.Protocol.NotedTexts
import SecureDialogues.Protocol.Sound

/-!
# Incoming sequence numbers

Freshness is checked against the counter in the stored record. `DialogActionHandler` saves the
record with the new counter; `MessageActionHandler` checks a copy and drops it, so a text leaves no
trace that would stop its repetition.
-/

namespace SecureDialogues

open Text Effect

section

variable {w : Nat} (p : Platform w)

/-- The incoming messages of a dialog that take effect have growing numbers, no text is added
twice, and the message log shows the texts that were added. -/
def NoReplay (s : Core w) : Prop :=
  (∀ dialogId, (effectiveNumbers dialogId s.log).Pairwise (· < ·) ∧
    (textNumbers dialogId s.log).Nodup) ∧ ShowsNoted s

/-- The message takes effect: it is obeyed as a control message, or its text can be read. -/
def TakesEffect (s : Core w) (message : DialogMessage w) : Prop :=
  DialogActionHandler.isItYouAction message.mAction = true ∨ message.mAction = .message ∧
    ∃ text, decryptMessageBody p s.mCiphers message.mDialogId message.mContent = .ok text

/-- A message that takes effect is newer than every earlier text of its dialog, and a dialog is
created under an identifier only if no message of that identifier is newer than the dialog's
counter. -/
def TakesNewer (s : Core w) (step : Step w) : Prop :=
  match step.2 with
  | .dispatch message channel => Delivered p step.1 s message channel →
      (IsFresh s message → TakesEffect p s message →
        ∀ number ∈ textNumbers message.mDialogId s.log, number < message.mSequentialNumber) ∧
      (message.mAction = .createDialog → s.mDialogStorage.find message.mDialogId = none →
        (∃ contact rest, DialogActionHandler.contactsAt s.mContactStorage message.mAdress channel =
          contact :: rest) →
            ∀ number ∈ effectiveNumbers message.mDialogId s.log,
              number ≤ message.mSequentialNumber)
  | .createDialog _ => s.mDialogStorage.find step.1.makeUiid = none →
      effectiveNumbers step.1.makeUiid s.log = []
  | _ => True

/-- The numbers grow, and the stored counter covers them, except those of texts. -/
structure Ordered (v : View w) : Prop where
  increasing : ∀ dialogId, (effectiveNumbers dialogId v.log).Pairwise (· < ·)
  covered : ∀ dialogId dialog, v.dialogs dialogId = some dialog →
    ∀ number ∈ effectiveNumbers dialogId v.log,
      number ≤ dialog.mPeerSequental ∨ number ∈ textNumbers dialogId v.log

theorem increasing_concat {numbers : List (BitVec w)} (increasing : numbers.Pairwise (· < ·))
    {number : BitVec w} (newest : ∀ other ∈ numbers, other < number) :
    (numbers ++ [number]).Pairwise (· < ·) := by
  refine List.pairwise_append.mpr ⟨increasing, by simp, fun other member last isLast => ?_⟩
  rw [List.mem_singleton] at isLast
  exact isLast ▸ newest other member

namespace Ordered

variable {p} {v : View w} (ordered : Ordered v)
include ordered

/-- Only the dialogs and the history matter. -/
theorem congr {v' : View w} (dialogs : v'.dialogs = v.dialogs) (log : v'.log = v.log) :
    Ordered v' where
  increasing := log ▸ ordered.increasing
  covered := log ▸ dialogs ▸ ordered.covered

/-- Events that are no effective messages. -/
theorem record {events : List (Event w)}
    (other : ∀ dialogId, effectiveNumbers dialogId events = []) : Ordered (v.record events) where
  increasing dialogId := by
    rw [View.record_log, effectiveNumbers_append, other, List.append_nil]
    exact ordered.increasing dialogId
  covered dialogId dialog found number member := by
    rw [View.record_log, effectiveNumbers_append, other, List.append_nil] at member
    rw [View.record_log, textNumbers_append, List.mem_append]
    exact (ordered.covered dialogId dialog found number member).imp_right .inl

theorem recordNotes {events : List (Event w)} (notes : ∀ event ∈ events, event.isNote = true) :
    Ordered (v.record events) :=
  ordered.record fun dialogId => effectiveNumbers_notes dialogId notes

/-- A dialog whose counter covers all the numbers is written. -/
theorem setDialog {dialog : Dialog w}
    (covered : ∀ number ∈ effectiveNumbers dialog.mDialogId v.log,
      number ≤ dialog.mPeerSequental ∨ number ∈ textNumbers dialog.mDialogId v.log) :
    Ordered (v.setDialog dialog) where
  increasing := ordered.increasing
  covered dialogId other found := by
    rw [View.setDialog_dialogs] at found
    split at found
    · rename_i same
      cases found
      exact same ▸ covered
    · exact ordered.covered dialogId other found

/-- A stored dialog is changed, but not its counter. -/
theorem updateDialog {dialog : Dialog w} (stored : ∃ before,
    v.dialogs dialog.mDialogId = some before ∧
      dialog.mPeerSequental = before.mPeerSequental) : Ordered (v.setDialog dialog) := by
  obtain ⟨before, found, same⟩ := stored
  apply ordered.setDialog
  intro number member
  rw [same]
  exact ordered.covered _ before found number member

theorem forget (dialogId : Str) : Ordered (v.forget dialogId) where
  increasing := ordered.increasing
  covered other dialog found := by
    rw [View.forget_dialogs] at found
    split at found
    · cases found
    · exact ordered.covered other dialog found

/-- A number newer than the counter and than all the texts is newer than all the numbers. -/
theorem newest {dialogId : Str} {dialog : Dialog w} (stored : v.dialogs dialogId = some dialog)
    {number : BitVec w} (fresh : dialog.mPeerSequental < number)
    (texts : ∀ other ∈ textNumbers dialogId v.log, other < number) :
    ∀ other ∈ effectiveNumbers dialogId v.log, other < number := by
  intro other member
  rcases ordered.covered dialogId dialog stored other member with old | text
  · simp only [BitVec.le_def, BitVec.lt_def] at *
    omega
  · exact texts other text

/-- A control message is obeyed. -/
theorem take {dialogId : Str} {dialog next : Dialog w} (stored : v.dialogs dialogId = some dialog)
    (named : next.mDialogId = dialogId) (fresh : dialog.mPeerSequental < next.mPeerSequental)
    (texts : ∀ other ∈ textNumbers dialogId v.log, other < next.mPeerSequental) :
    Ordered ((v.setDialog next).record [.controlTaken dialogId next.mPeerSequental]) where
  increasing other := by
    rw [View.record_log, effectiveNumbers_append]
    by_cases same : dialogId = other
    · subst same
      simp only [View.setDialog_log, effectiveNumbers, List.filterMap_cons, List.filterMap_nil,
        Event.effectiveNumber, if_true]
      exact increasing_concat (ordered.increasing _) (ordered.newest stored fresh texts)
    · simpa [effectiveNumbers, Event.effectiveNumber, same] using ordered.increasing other
  covered other dialog' found number member := by
    rw [View.record_dialogs, View.setDialog_dialogs, named] at found
    rw [View.record_log, effectiveNumbers_append, View.setDialog_log] at member
    by_cases same : dialogId = other
    · subst same
      rw [if_pos rfl] at found
      cases found
      left
      simp only [effectiveNumbers, List.filterMap_cons, List.filterMap_nil, Event.effectiveNumber,
        if_true, List.mem_append, List.mem_singleton] at member
      rcases member with old | rfl
      · have newer := ordered.newest stored fresh texts number old
        simp only [BitVec.le_def, BitVec.lt_def] at *
        omega
      · exact BitVec.le_refl _
    · rw [if_neg same] at found
      have member : number ∈ effectiveNumbers other v.log := by
        simpa [effectiveNumbers, Event.effectiveNumber, same] using member
      apply (ordered.covered other dialog' found number member).imp_right
      intro text
      rw [View.record_log, textNumbers_append]
      exact List.mem_append_left _ text

/-- A text is added. -/
theorem addText {dialogId : Str} {dialog : Dialog w} (stored : v.dialogs dialogId = some dialog)
    {number : BitVec w} (fresh : dialog.mPeerSequental < number) (text : Str)
    (texts : ∀ other ∈ textNumbers dialogId v.log, other < number) :
    Ordered (v.record [.textAdded dialogId number text]) where
  increasing other := by
    rw [View.record_log, effectiveNumbers_append]
    by_cases same : dialogId = other
    · subst same
      simp only [effectiveNumbers, List.filterMap_cons, List.filterMap_nil, Event.effectiveNumber,
        if_true]
      exact increasing_concat (ordered.increasing _) (ordered.newest stored fresh texts)
    · simpa [effectiveNumbers, Event.effectiveNumber, same] using ordered.increasing other
  covered other dialog' found taken member := by
    rw [View.record_log, effectiveNumbers_append, List.mem_append] at member
    rw [View.record_log, textNumbers_append, List.mem_append]
    rcases member with old | new
    · exact (ordered.covered other dialog' found taken old).imp_right .inl
    · right
      right
      simpa [effectiveNumbers, textNumbers, Event.effectiveNumber, Event.textNumber] using new

end Ordered

variable {p} {env : Env w} {start : Core w} {input : Input w}

/-- Notes leave the numbers of texts as they were. -/
theorem Untouched.textNumbers {v : View w} (untouched : Untouched start v) (dialogId : Str) :
    textNumbers dialogId v.log = SecureDialogues.textNumbers dialogId start.log := by
  obtain ⟨notes, log, note⟩ := untouched.log
  have none : SecureDialogues.textNumbers dialogId notes = [] := by
    have sublist := textNumbers_sublist dialogId notes
    rw [effectiveNumbers_notes dialogId note] at sublist
    exact List.sublist_nil.mp sublist
  rw [log, textNumbers_append, none, List.append_nil]

theorem Untouched.effectiveNumbers {v : View w} (untouched : Untouched start v) (dialogId : Str) :
    effectiveNumbers dialogId v.log = SecureDialogues.effectiveNumbers dialogId start.log := by
  obtain ⟨notes, log, note⟩ := untouched.log
  rw [log, effectiveNumbers_append, effectiveNumbers_notes dialogId note, List.append_nil]

/-- Every move of a step that takes newer messages only keeps the order. -/
theorem Ordered.move {v v' : View w} (ordered : Ordered v) (sound : Sound v)
    (newer : TakesNewer p start (env, input)) (move : Move p env start input v v') : Ordered v' := by
  cases move with
  | note note => exact ordered.recordNotes (by simpa using note)
  | strayAbort | abortFailed => exact ordered.record fun _ => rfl
  | takeControl cause control delivered untouched stored fresh =>
    simp only [TakesNewer, cause] at newer
    have named := sound.keyed _ _ stored
    refine ordered.take stored ?_ fresh ?_
    · exact named
    · rw [untouched.textNumbers]
      exact (newer delivered).1 (untouched.isFresh stored fresh) (.inl control)
  | addText cause action delivered untouched stored fresh read =>
    simp only [TakesNewer, cause] at newer
    apply ordered.addText stored fresh _
    rw [untouched.textNumbers]
    exact (newer delivered).1 (untouched.isFresh stored fresh) (.inr ⟨action, _, read⟩)
  | create cause untouched unknown shape =>
    simp only [TakesNewer, cause] at newer
    refine Ordered.record (ordered.setDialog fun number member => ?_) fun _ => rfl
    rw [untouched.effectiveNumbers] at member
    rw [untouched.dialogs] at unknown
    rw [shape] at member unknown
    have none := newer unknown
    simp only [Dialog.ofContact, Dialog.ofPeer] at member
    rw [none] at member
    cases member
  | createByPeer cause action delivered untouched unknown known shape =>
    simp only [TakesNewer, cause] at newer
    refine Ordered.record (ordered.setDialog fun number member => ?_) fun _ => rfl
    rw [untouched.effectiveNumbers] at member
    rw [untouched.dialogs] at unknown
    left
    rw [shape] at member ⊢
    exact (newer delivered).2 action unknown ⟨_, _, known⟩ number member
  | install =>
    apply Ordered.record (v := v.install _ _) (ordered.congr rfl rfl)
    intro _
    rfl
  | request _ _ stored =>
    refine Ordered.updateDialog (Ordered.record (v := v.store _ _) (ordered.congr rfl rfl)
      fun _ => ?_) ?_
    · rfl
    · exact ⟨_, stored, rfl⟩
  | requestFailed | verifyKey =>
    apply Ordered.record (v := v.store _ _) (ordered.congr rfl rfl)
    intro _
    rfl
  | skip _ stored => exact ordered.updateDialog ⟨_, stored, rfl⟩
  | @sendText dialog _ _ _ _ _ _ stored =>
    have updated : Ordered (v.setDialog dialog.makeNextSequental) :=
      ordered.updateDialog ⟨_, stored, rfl⟩
    refine Ordered.record (v := (v.setDialog dialog.makeNextSequental).store _ _)
      (updated.congr rfl rfl) fun _ => ?_
    rfl
  | abort _ _ stored _ handed =>
    refine Ordered.updateDialog (ordered.record fun dialogId => ?_) ?_
    · rw [effectiveNumbers, List.filterMap_eq_nil_iff]
      intro event member
      obtain ⟨_, _, rfl, -⟩ := handed event member
      rfl
    · exact ⟨_, stored, rfl⟩
  | peerStatus _ _ _ _ _ _ _ _ _ _ _ _ stored => exact ordered.updateDialog ⟨_, stored, rfl⟩
  | removed _ _ _ _ stored =>
    refine Ordered.congr (v := v.setDialog _) ?_ rfl rfl
    exact ordered.updateDialog ⟨_, stored, rfl⟩
  | endText => exact ordered.congr rfl rfl
  | @timeouted _ _ _ dialog _ mAbortNeed events _ _ _ _ stored _ handed =>
    refine Ordered.congr (v := (v.record events).setDialog _) ?_ rfl rfl
    refine Ordered.updateDialog (ordered.record fun dialogId => ?_) ?_
    · rw [effectiveNumbers, List.filterMap_eq_nil_iff]
      intro event member
      rcases handed event member with note | ⟨-, _, _, rfl, -⟩
      · exact effectiveNumber_of_isNote dialogId note
      · rfl
    · refine ⟨dialog, ?_, ?_⟩ <;> cases mAbortNeed
      all_goals first
        | exact stored
        | rfl
  | timeoutFailed _ _ _ handed =>
    apply ordered.record
    intro dialogId
    rw [effectiveNumbers, List.filterMap_eq_nil_iff]
    intro event member
    rcases handed event member with note | ⟨-, _, _, _, rfl, -⟩
    · exact effectiveNumber_of_isNote dialogId note
    · rfl
  | remove => exact Ordered.record (ordered.forget _) fun _ => rfl

theorem Ordered.restart {s : Core w} (ordered : Ordered s.view) : Ordered s.restart.view := by
  have marked : Ordered (s.view.record [.restarted]) := ordered.record fun _ => rfl
  exact marked.congr rfl rfl

theorem ordered_exec {s : Core w} (inv : Sound s.view ∧ Ordered s.view)
    (newer : s.alive = true → TakesNewer p s (env, input)) :
    Sound (exec p env input s).view ∧ Ordered (exec p env input s).view :=
  exec_invariant (I := fun v => Sound v ∧ Ordered v)
    (fun _ inv => ⟨inv.1.restart, inv.2.restart⟩)
    (fun alive _ _ move inv => ⟨inv.1.move move, inv.2.move inv.1 (newer alive) move⟩) inv

/-- In every state of a run whose steps all take newer messages, nothing was replayed. -/
theorem no_replay (p : Platform w) {steps : List (Step w)}
    (newer : Run.Along (next p) (fun s step => s.alive = true → TakesNewer p s step)
      Core.initial steps) : NoReplay (Run.after (next p) Core.initial steps) := by
  obtain ⟨⟨-, ordered⟩, shows⟩ := Run.invariant_after
    (I := fun s => (Sound s.view ∧ Ordered s.view) ∧ ShowsNoted s)
    (fun s step inv newer => ⟨ordered_exec inv.1 newer, inv.2.exec⟩)
    ⟨⟨sound_initial, fun _ => .nil, fun _ _ found => by simp [Core.initial] at found⟩,
      showsNoted_initial⟩ newer
  refine ⟨fun dialogId => ?_, shows⟩
  have increasing := ordered.increasing dialogId
  refine ⟨increasing, (increasing.sublist (textNumbers_sublist dialogId _)).imp fun less => ?_⟩
  rintro rfl
  exact absurd less (by simp)

end

/-! ## Texts of the sample -/

theorem sample_newer {s : Core 64} {action : Action} {number : BitVec 64} {content : Str}
    (texts : (textNumbers (str "dialog") s.log).all (· < number) = true)
    (other : action ≠ .createDialog) :
    TakesNewer Sample.platform s (Sample.receive action number content) := by
  refine fun _ => ⟨fun _ _ text member => ?_, fun creates => absurd creates other⟩
  exact of_decide_eq_true (List.all_eq_true.mp texts text member)

/-- Two texts of an established dialog, with growing numbers. -/
theorem growing_texts_not_replayed :
    textNumbers (str "dialog") (Sample.run (Sample.established ++
      [Sample.receive .message 3 (str "one"), Sample.receive .message 4 (str "two")])).log = [3, 4] ∧
    NoReplay (Sample.run (Sample.established ++
      [Sample.receive .message 3 (str "one"), Sample.receive .message 4 (str "two")])) := by
  refine ⟨by decide +kernel, no_replay Sample.platform ?_⟩
  refine ⟨fun _ => trivial, fun _ => trivial, fun _ _ => ?_, fun _ => sample_newer ?_ ?_,
    fun _ => sample_newer ?_ ?_, fun _ => sample_newer ?_ ?_, fun _ => sample_newer ?_ ?_,
    fun _ => sample_newer ?_ ?_, fun _ => sample_newer ?_ ?_, trivial⟩
  all_goals decide +kernel

/-- A text that arrives a second time is added a second time. -/
theorem text_replayed :
    textNumbers (str "dialog") (Sample.run (Sample.established ++
      [Sample.receive .message 3 (str "one"), Sample.receive .message 3 (str "one")])).log = [3, 3] ∧
    ¬ NoReplay (Sample.run (Sample.established ++
      [Sample.receive .message 3 (str "one"), Sample.receive .message 3 (str "one")])) := by
  refine ⟨by decide +kernel, fun noReplay => ?_⟩
  exact absurd (noReplay.1 (str "dialog")).2 (by decide +kernel)

end SecureDialogues
