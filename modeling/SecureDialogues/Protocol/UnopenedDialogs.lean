import SecureDialogues.Protocol.DeliveredTexts
import SecureDialogues.Protocol.Sound

/-!
# Dialogs between new instances

The status WAIT_KEY_VERIFICAION, in which ACCEPT_DIALOG may be sent, is never reached. So between
two instances that have never run, and whose messages nobody forges, no ACCEPT_DIALOG is sent, no
dialog becomes ACTIVE, and no text of a user gets into the message container: whatever is delivered
has been received.
-/

namespace SecureDialogues

open Text Effect

section

variable {w : Nat}

/-! ## One side -/

/-- No dialog is ACTIVE, and no ACCEPT_DIALOG was transmitted. -/
structure Unopened (v : View w) : Prop where
  dialogs : ∀ dialogId dialog, v.dialogs dialogId = some dialog → dialog.mStatus ≠ .active
  sent : ∀ message ∈ transmittedOf v.log, message.mAction ≠ .acceptDialog

/-- The event transmits no ACCEPT_DIALOG. -/
def Event.Accepts : Event w → Prop
  | .handed _ message true => message.mAction = .acceptDialog
  | _ => False

theorem not_accepts_of_isNote {event : Event w} (note : event.isNote = true) : ¬ event.Accepts := by
  cases event with
  | handed channel message sent =>
    cases sent with
    | false => exact not_false
    | true =>
      intro accepts
      have acks : message.mAction = .ack := by simpa [Event.isNote] using note
      rw [Event.Accepts, acks] at accepts
      cases accepts
  | _ => exact not_false

theorem not_accepts_of_action {channel : Str} {message : DialogMessage w} {action : Action}
    {sent : Bool} (same : message.mAction = action) (other : action ≠ .acceptDialog) :
    ¬ (Event.handed channel message sent).Accepts := by
  cases sent with
  | false => exact not_false
  | true => exact fun accepts => other (same.symm.trans accepts)

namespace Unopened

variable {v : View w} (unopened : Unopened v)
include unopened

theorem record {events : List (Event w)} (others : ∀ event ∈ events, ¬ event.Accepts) :
    Unopened (v.record events) where
  dialogs := unopened.dialogs
  sent message member := by
    rw [View.record_log, transmittedOf_append] at member
    rcases List.mem_append.mp member with old | new
    · exact unopened.sent message old
    · obtain ⟨event, member, shown⟩ := List.mem_filterMap.mp new
      have other := others event member
      cases event with
      | handed channel carried sent =>
        cases sent with
        | false => cases shown
        | true =>
          obtain rfl := Option.some.inj shown
          exact other
      | _ => cases shown

theorem recordOne {event : Event w} (other : ¬ event.Accepts) : Unopened (v.record [event]) :=
  unopened.record fun _ member => List.mem_singleton.mp member ▸ other

theorem setDialog {dialog : Dialog w} (status : dialog.mStatus ≠ .active) :
    Unopened (v.setDialog dialog) where
  dialogs dialogId other found := by
    rw [View.setDialog_dialogs] at found
    split at found
    · cases found
      exact status
    · exact unopened.dialogs dialogId other found
  sent := unopened.sent

/-- A stored dialog is changed, but not its status. -/
theorem updateDialog {dialogId : Str} {before dialog : Dialog w}
    (stored : v.dialogs dialogId = some before) (status : dialog.mStatus = before.mStatus) :
    Unopened (v.setDialog dialog) :=
  unopened.setDialog (status ▸ unopened.dialogs dialogId before stored)

theorem store (k : NumberedKey w) (handler : DeliveryHandler) : Unopened (v.store k handler) :=
  ⟨unopened.dialogs, unopened.sent⟩

theorem drop (k : NumberedKey w) : Unopened (v.drop k) := ⟨unopened.dialogs, unopened.sent⟩

theorem install (dialogId : Str) (element : DialogElement) : Unopened (v.install dialogId element) :=
  ⟨unopened.dialogs, unopened.sent⟩

theorem forget (dialogId : Str) : Unopened (v.forget dialogId) where
  dialogs other dialog found := by
    rw [View.forget_dialogs] at found
    split at found
    · cases found
    · exact unopened.dialogs other dialog found
  sent := unopened.sent

end Unopened

variable {p : Platform w} {env : Env w} {start : Core w} {input : Input w}

/-- A request is no ACCEPT_DIALOG. -/
theorem Asks.ne_acceptDialog {dialogId : Str} {action : Action} {mNext status : Status}
    {mAbortNeed : Bool} (asks : Asks env input dialogId action mNext mAbortNeed)
    (allowed : isMessageActionAllowed status action = true)
    (reached : status ≠ .waitKeyVerificaion) : action ≠ .acceptDialog := by
  rintro rfl
  exact reached (isMessageActionAllowed_acceptDialog.mp allowed)

/-- Every move keeps a side unopened, as long as no ACCEPT_DIALOG comes in. -/
theorem Unopened.move {v v' : View w} (unopened : Unopened v) (sound : Sound v)
    (others : ∀ message channel, input = .dispatch message channel → message.mAction ≠ .acceptDialog)
    (move : Move p env start input v v') : Unopened v' := by
  cases move with
  | note note => exact unopened.recordOne (not_accepts_of_isNote note)
  | strayAbort channel sent _ abort =>
    exact unopened.recordOne (not_accepts_of_action abort (by decide))
  | takeControl _ _ _ _ stored =>
    refine Unopened.recordOne (unopened.updateDialog stored ?_) not_false
    rfl
  | addText => exact unopened.recordOne not_false
  | create _ _ _ shape =>
    refine Unopened.recordOne (unopened.setDialog ?_) not_false
    simp [shape, Dialog.ofContact, Dialog.ofPeer]
  | createByPeer _ _ _ _ _ _ shape =>
    refine Unopened.recordOne (unopened.setDialog ?_) not_false
    simp [shape, Dialog.ofPeer]
  | install => exact (unopened.install _ _).recordOne not_false
  | request asks _ stored allowed _ _ _ requested =>
    have other := asks.ne_acceptDialog allowed (sound.reached _ _ stored).2
    refine Unopened.updateDialog ?_ stored rfl
    exact (unopened.store _ _).recordOne (not_accepts_of_action requested other)
  | requestFailed => exact (unopened.store _ _).recordOne not_false
  | verifyKey _ _ _ _ _ _ _ answers =>
    exact (unopened.store _ _).recordOne (not_accepts_of_action answers (by decide))
  | skip _ stored => exact unopened.updateDialog stored rfl
  | sendText _ _ stored _ _ _ _ _ action =>
    refine Unopened.recordOne (Unopened.store ?_ _ _) (not_accepts_of_action action (by decide))
    exact unopened.updateDialog stored rfl
  | abort _ _ _ _ handed =>
    refine Unopened.setDialog (unopened.record fun event member => ?_) (by simp)
    obtain ⟨channel, message, rfl, abort, -⟩ := handed event member
    exact not_accepts_of_action abort (by decide)
  | abortFailed => exact unopened.recordOne not_false
  | peerStatus cause _ _ _ mapped =>
    apply unopened.setDialog
    rcases map_reached mapped with ⟨-, action⟩ | rfl | rfl
    · exact absurd action (others _ _ cause)
    · simp
    · simp
  | removed _ _ _ waiting =>
    refine Unopened.drop (unopened.setDialog ?_) _
    rcases sound.requested _ _ _ _ _ _ waiting with ⟨rfl, -⟩ | ⟨rfl, -⟩ | ⟨rfl, -⟩ <;> simp
  | endText => exact unopened.drop _
  | timeouted _ _ _ _ _ _ handed =>
    refine Unopened.drop (Unopened.setDialog (unopened.record fun event member => ?_) ?_) _
    · rcases handed event member with note | ⟨-, channel, message, rfl, abort⟩
      · exact not_accepts_of_isNote note
      · exact not_accepts_of_action abort (by decide)
    · simp
  | timeoutFailed _ _ _ handed =>
    refine unopened.record fun event member => ?_
    rcases handed event member with note | ⟨-, channel, message, sent, rfl, abort⟩
    · exact not_accepts_of_isNote note
    · exact not_accepts_of_action abort (by decide)
  | remove => exact (unopened.forget _).recordOne not_false

theorem Unopened.restart {s : Core w} (unopened : Unopened s.view) : Unopened s.restart.view where
  dialogs := unopened.dialogs
  sent message member := by
    apply unopened.sent message
    rw [Core.view_log, Core.restart, transmittedOf_append] at member
    simpa [transmittedOf] using member

/-- A step without an incoming ACCEPT_DIALOG opens no dialog and transmits no ACCEPT_DIALOG. -/
theorem unopened_exec {s : Core w} (inv : Sound s.view ∧ Unopened s.view)
    (others : ∀ message channel, input = .dispatch message channel →
      message.mAction ≠ .acceptDialog) :
    Sound (exec p env input s).view ∧ Unopened (exec p env input s).view :=
  exec_invariant (I := fun v => Sound v ∧ Unopened v) (fun _ inv => ⟨inv.1.restart, inv.2.restart⟩)
    (fun _ _ _ move inv => ⟨inv.1.move move, inv.2.move inv.1 others move⟩) inv

/-- While no dialog is ACTIVE, no text of the user gets into the message container. -/
theorem HasNoTexts.next {s : Core w} (noTexts : HasNoTexts s) (unopened : Unopened s.view)
    (step : Step w) : HasNoTexts (SecureDialogues.next p s step) := by
  cases textStep_next (p := p) s step with
  | keeps keeps =>
    constructor
    · intro dialogId number message shows own
      exact noTexts.shown dialogId number message ((keeps.shows _ _ _ own).mp shows) own
    · intro k dialogId number pends
      exact noTexts.pending k dialogId number ((keeps.pends _ _ _).mp pends)
  | restart _ fresh =>
    rw [fresh]
    constructor
    · intro dialogId number message shows
      cases shows
    · rintro k dialogId number ⟨stored, found, -⟩
      simp [Core.restart] at found
  | settle _ pends => exact absurd pends (noTexts.pending _ _ _)
  | newText _ _ shows =>
    have same : (textStart p s).mDialogStorage = s.mDialogStorage := by
      unfold textStart
      split <;> rfl
    have stored := shows.stored
    rw [same] at stored
    exact absurd (isMessageActionAllowed_message.mp shows.allowed) (unopened.dialogs _ _ stored)

/-! ## Both sides -/

namespace Pair

variable (platform : Duplex.Side → Platform w)

/-- Neither side has opened a dialog, and neither user has written a text. -/
def IsUnopened (pair : Pair w) : Prop :=
  ∀ side, (Sound (pair side).view ∧ Unopened (pair side).view) ∧ HasNoTexts (pair side)

/-- The two instances have never run. -/
def initial : Pair w := fun _ => .initial

/-- A step that forges nothing leaves both sides unopened. -/
theorem IsUnopened.next {pair : Pair w} (unopened : IsUnopened pair)
    {happening : Duplex.Side × Step w} (unforged : Unforged initial pair happening) :
    IsUnopened (next platform pair happening) := by
  intro side
  by_cases same : side = happening.1
  swap
  · rw [next_other same]
    exact unopened side
  subst same
  rw [next_same]
  obtain ⟨sides, noTexts⟩ := unopened happening.1
  refine ⟨unopened_exec sides fun message channel input => ?_, noTexts.next sides.2 happening.2⟩
  obtain ⟨sent, member, address, rfl⟩ := unforged message channel input
  exact (unopened happening.1.other).1.2.sent sent member

end Pair

end

/-! ## Two new instances -/

namespace Sample

/-- The right side's messages, as they arrive at the left. -/
def answer (action : Action) (number : BitVec 64) (content : Str) : Duplex.Side × Step 64 :=
  (.left, receive action number content)

end Sample

end SecureDialogues
