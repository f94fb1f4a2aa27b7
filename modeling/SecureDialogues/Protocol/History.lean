import SecureDialogues.Protocol.View

/-!
# What the history of an instance says

The sequence numbers that went out and came in for a dialog, read off the list of events.
-/

namespace SecureDialogues

open Text

section

variable {w : Nat}

/-- The events that concern no dialog: notifications and acknowledgements. -/
def Event.isNote : Event w → Bool
  | .notified _ _ => true
  | .handed _ message _ => message.mAction == .ack
  | _ => false

/-- The numbers of a dialog's messages after one more event. Adding the dialog starts anew. -/
def handedStep (dialogId : Str) (numbers : List (BitVec w)) : Event w → List (BitVec w)
  | .dialogAdded added => if added = dialogId then [] else numbers
  | .handed _ message _ =>
    if message.mDialogId = dialogId ∧ message.mAction ≠ .ack then
      numbers ++ [message.mSequentialNumber]
    else numbers
  | _ => numbers

/-- The numbers of the messages other than ACKs that were handed to a channel for a dialog since
it was added to the storage, in the order in which they were handed. -/
def handedNumbers (dialogId : Str) (log : List (Event w)) : List (BitVec w) :=
  log.foldl (handedStep dialogId) []

/-- The number of an incoming message of the dialog that took effect. -/
def Event.effectiveNumber (dialogId : Str) : Event w → Option (BitVec w)
  | .controlTaken taken number => if taken = dialogId then some number else none
  | .textAdded taken number _ => if taken = dialogId then some number else none
  | _ => none

/-- The numbers of the incoming messages of a dialog that took effect, in order. -/
def effectiveNumbers (dialogId : Str) (log : List (Event w)) : List (BitVec w) :=
  log.filterMap (Event.effectiveNumber dialogId)

/-- The number of an incoming text of the dialog. -/
def Event.textNumber (dialogId : Str) : Event w → Option (BitVec w)
  | .textAdded taken number _ => if taken = dialogId then some number else none
  | _ => none

/-- The numbers of the incoming texts of a dialog, in order. -/
def textNumbers (dialogId : Str) (log : List (Event w)) : List (BitVec w) :=
  log.filterMap (Event.textNumber dialogId)

/-- The events since the program was last started. -/
def sinceStart (log : List (Event w)) : List (Event w) :=
  log.foldl (fun events event => if event = .restarted then [] else events ++ [event]) []

variable (dialogId : Str) (log : List (Event w)) (event : Event w)

@[simp] theorem handedNumbers_concat :
    handedNumbers dialogId (log ++ [event]) = handedStep dialogId (handedNumbers dialogId log) event := by
  simp [handedNumbers]

@[simp] theorem effectiveNumbers_append (events : List (Event w)) :
    effectiveNumbers dialogId (log ++ events) =
      effectiveNumbers dialogId log ++ effectiveNumbers dialogId events := by
  simp [effectiveNumbers]

@[simp] theorem textNumbers_append (events : List (Event w)) :
    textNumbers dialogId (log ++ events) =
      textNumbers dialogId log ++ textNumbers dialogId events := by
  simp [textNumbers]

@[simp] theorem sinceStart_concat : sinceStart (log ++ [event]) =
    if event = .restarted then [] else sinceStart log ++ [event] := by
  simp [sinceStart]

variable {event}

theorem handedStep_of_isNote (note : event.isNote = true) (numbers : List (BitVec w)) :
    handedStep dialogId numbers event = numbers := by
  cases event <;> simp_all [Event.isNote, handedStep]

theorem effectiveNumber_of_isNote (note : event.isNote = true) :
    event.effectiveNumber dialogId = none := by
  cases event <;> simp_all [Event.isNote, Event.effectiveNumber]

/-- Notes leave the numbers handed for a dialog as they were. -/
theorem handedNumbers_append_notes {notes : List (Event w)}
    (note : ∀ event ∈ notes, event.isNote = true) :
    handedNumbers dialogId (log ++ notes) = handedNumbers dialogId log := by
  induction notes using List.reverseRecOn with
  | nil => simp
  | append_singleton notes event ih =>
    rw [← List.append_assoc, handedNumbers_concat, handedStep_of_isNote _ (note event (by simp)),
      ih fun e member => note e (by simp [member])]

/-- Notes are no effective messages. -/
theorem effectiveNumbers_notes {notes : List (Event w)}
    (note : ∀ event ∈ notes, event.isNote = true) : effectiveNumbers dialogId notes = [] := by
  rw [effectiveNumbers, List.filterMap_eq_nil_iff]
  intro event member
  exact effectiveNumber_of_isNote _ (note event member)

/-- The texts are among the effective messages. -/
theorem textNumbers_sublist : (textNumbers dialogId log).Sublist (effectiveNumbers dialogId log) := by
  induction log with
  | nil => exact List.Sublist.refl _
  | cons event log ih =>
    simp only [textNumbers, effectiveNumbers, List.filterMap_cons] at ih ⊢
    cases event <;> simp only [Event.textNumber, Event.effectiveNumber] <;> try split
    all_goals first
      | exact ih
      | exact ih.cons_cons _
      | exact ih.cons _

end

end SecureDialogues
