import SecureDialogues.Protocol.TextFlow
import SecureDialogues.Stepwise.Saves

/-!
# The texts of the log and the notes of them

`MessageActionHandler::handle` notes each text that it puts into the message log, and nothing else
puts one there. A started program has an empty message log, so the texts that it shows as received
are the ones that were noted since.
-/

namespace SecureDialogues

open Text Effect

section

variable {w : Nat}

/-! ## Notes -/

/-- The event is the note of a text, or the start of the program. -/
def Event.isTextual : Event w → Bool
  | .textAdded _ _ _ | .restarted => true
  | _ => false

/-- The texts of a dialog that were noted since the program was started. -/
def notedTexts (dialogId : Str) (log : List (Event w)) : List Str :=
  log.foldl (fun texts event =>
    match event with
    | .textAdded taken _ text => if taken = dialogId then texts ++ [text] else texts
    | .restarted => []
    | _ => texts) []

/-- The log shows the noted texts as received, and no others. -/
def ShowsNoted (s : Core w) : Prop :=
  ∀ dialogId, incomingTexts s dialogId = notedTexts dialogId s.log

theorem notedTexts_append {events : List (Event w)}
    (other : ∀ event ∈ events, event.isTextual = false) (dialogId : Str) (log : List (Event w)) :
    notedTexts dialogId (log ++ events) = notedTexts dialogId log := by
  rw [notedTexts, List.foldl_append]
  show events.foldl _ (notedTexts dialogId log) = notedTexts dialogId log
  generalize notedTexts dialogId log = texts
  induction events with
  | nil => rfl
  | cons event rest ih =>
    have textual := other event List.mem_cons_self
    rw [List.foldl_cons]
    cases event with
    | textAdded | restarted => cases textual
    | _ => exact ih fun later member => other later (List.mem_cons_of_mem _ member)

theorem isTextual_of_isNote {event : Event w} (note : event.isNote = true) :
    event.isTextual = false := by
  cases event with
  | textAdded | restarted => cases note
  | _ => rfl

variable {p : Platform w} {env : Env w} {start : Core w} {input : Input w}

variable (p env start input) in
/-- The input is a text that is delivered, fresh and readable. -/
def BringsText : Prop :=
  ∃ message channel, input = .dispatch message channel ∧ message.mAction = .message ∧
    Delivered p env start message channel ∧ IsFresh start message ∧
      ∃ text, decryptMessageBody p start.mCiphers message.mDialogId message.mContent = .ok text

/-- Only the acceptance of a text notes one. -/
theorem Move.notes {v v' : View w} (move : Move p env start input v v') :
    (∃ events, v'.log = v.log ++ events ∧ ∀ event ∈ events, event.isTextual = false) ∨
      BringsText p env start input := by
  have single {event : Event w} (other : event.isTextual = false) :
      ∀ shown ∈ [event], shown.isTextual = false := by
    simpa using other
  cases move with
  | addText cause action delivered untouched stored fresh read =>
    exact .inr ⟨_, _, cause, action, delivered, untouched.isFresh stored fresh, _, read⟩
  | note note => exact .inl ⟨_, rfl, single (isTextual_of_isNote note)⟩
  | skip | peerStatus | removed | endText => exact .inl ⟨[], (List.append_nil _).symm, nofun⟩
  | abort _ _ _ _ handed =>
    refine .inl ⟨_, rfl, ?_⟩
    intro event member
    obtain ⟨_, _, rfl, -⟩ := handed event member
    rfl
  | timeouted _ _ _ _ _ _ handed =>
    refine .inl ⟨_, rfl, ?_⟩
    intro event member
    rcases handed event member with note | ⟨-, _, _, rfl, -⟩
    · exact isTextual_of_isNote note
    · rfl
  | timeoutFailed _ _ _ handed =>
    refine .inl ⟨_, rfl, ?_⟩
    intro event member
    rcases handed event member with note | ⟨-, _, _, _, rfl, -⟩
    · exact isTextual_of_isNote note
    · rfl
  | _ => exact .inl ⟨_, rfl, single rfl⟩

theorem notedTexts_of_moves {v v' : View w}
    (moves : Relation.ReflTransGen (Move p env start input) v v') (silent : ¬ BringsText p env start input)
    (dialogId : Str) : notedTexts dialogId v'.log = notedTexts dialogId v.log := by
  induction moves with
  | refl => rfl
  | tail _ move ih =>
    rcases move.notes with ⟨events, log, other⟩ | brings
    · rw [log, notedTexts_append other, ih]
    · exact absurd brings silent

/-! ## Texts -/

theorem incomingTexts_of_addMessage {s s' : Core w} {owner : Str} {message : UserMessage}
    (added : s'.mMessageContainer = s.mMessageContainer.addMessage owner message)
    (other : message.mType ≠ .incoming) : incomingTexts s' = incomingTexts s := by
  funext dialogId
  rw [incomingTexts, incomingTexts, added, MessageContainer.messagesOf_addMessage]
  split
  · simp [other]
  · rw [List.append_nil]

theorem incomingTexts_of_kinds {s s' : Core w} {dialogId : Str}
    (same : (s'.mMessageContainer.messagesOf dialogId).map
        (fun message => (message.mType, message.mContent)) =
      (s.mMessageContainer.messagesOf dialogId).map
        fun message => (message.mType, message.mContent)) :
    incomingTexts s' dialogId = incomingTexts s dialogId := by
  have texts (s : Core w) : incomingTexts s dialogId =
      (((s.mMessageContainer.messagesOf dialogId).map
        fun message => (message.mType, message.mContent)).filter (·.1 = .incoming)).map (·.2) := by
    rw [incomingTexts, List.filter_map, List.map_map]
    rfl
  rw [texts, texts, same]

/-- Only a message of this kind is shown as received. -/
theorem incomingTexts_exec {a : Atom w}
    (other : ∀ owner message, a = .addMessage owner message → message.mType ≠ .incoming)
    (s : Core w) : incomingTexts (a.exec p env s).2 = incomingTexts s := by
  have changed : (a.exec p env s).2.mMessageContainer = s.mMessageContainer.changed (a.change p) :=
    Atom.exec_mMessageContainer a s
  cases a with
  | saveDialog dialog =>
    by_cases ended : dialog.mStatus.isEnded = true
    · rw [Atom.change, if_pos ended] at changed
      exact incomingTexts_of_addMessage changed (by rintro ⟨⟩)
    · rw [Atom.change, if_neg ended] at changed
      exact incomingTexts_congr changed
  | addMessage owner message =>
    exact incomingTexts_of_addMessage changed (other owner message rfl)
  | addToActiveDialog text =>
    replace changed : _ = s.mMessageContainer.perform (.addToActiveDialogWithWrapper text false) :=
      changed
    rw [MessageContainer.perform_addToActiveDialogWithWrapper] at changed
    split at changed
    · exact incomingTexts_of_addMessage changed (by rintro ⟨⟩)
    · exact incomingTexts_congr changed
  | setActiveDialog opened =>
    funext dialogId
    apply incomingTexts_of_kinds
    rw [changed]
    exact congrArg _ (MessageContainer.messagesOf_setActiveDialog _ opened dialogId)
  | updateMessage owner number status =>
    funext dialogId
    apply incomingTexts_of_kinds
    rw [changed]
    exact MessageContainer.map_messagesOf_updateMessage _ owner number status dialogId
  | _ => exact incomingTexts_congr changed

/-- No text of the peer is shown. -/
def unheard : Demands where
  named _ := True
  ended := True
  incoming := False

theorem incomingTexts_of_records {m : Steps w Unit} {s : Core w}
    (records : Records unheard s.current m) :
    incomingTexts (m.run (Atom.exec p env) s).2 = incomingTexts s := by
  have steps : ∀ mirror (a : Atom w) s',
      (mirror = s'.current ∧ incomingTexts s' = incomingTexts s) →
        (recording unheard).guard mirror a →
        (recording unheard).possible mirror a (a.exec p env s').1 ∧
          (recording unheard).note mirror a (a.exec p env s').1 = (a.exec p env s').2.current ∧
          incomingTexts (a.exec p env s').2 = incomingTexts s := by
    intro mirror a s' kept guard
    obtain ⟨rfl, same⟩ := kept
    obtain ⟨possible, noted⟩ := exec_mirrors p env unheard a s'
    refine ⟨possible, noted, (incomingTexts_exec ?_ s').trans same⟩
    rintro owner message rfl incoming
    exact guard.2.2 incoming
  obtain ⟨-, ⟨-, kept⟩, -⟩ := Prog.Obeys.run
    (I := fun mirror s' => mirror = s'.current ∧ incomingTexts s' = incomingTexts s)
    steps records ⟨rfl, rfl⟩
  exact kept

theorem incomingTexts_perform
    (other : ∀ message channel, input = .dispatch message channel → message.mAction ≠ .message)
    (running : input ≠ .restart) (s : Core w) :
    incomingTexts (perform p env input s).2 = incomingTexts s := by
  cases steps : Operation.steps p env (.ofInput input) with
  | none =>
    obtain ⟨contacts, remote, channels, same⟩ := perform_of_none p env steps running s
    rw [same]
    rfl
  | some m =>
    have permitted : unheard.Permit env s input := by
      cases input with
      | dispatch message channel =>
        exact ⟨fun _ => trivial, fun action => other message channel rfl action,
          fun _ => .inl trivial⟩
      | _ => trivial
    have run : m.run (Atom.exec p env) = perform p env input := Operation.run_steps p env steps
    rw [← run]
    exact incomingTexts_of_records (records_ofInput p env steps permitted)

/-! ## Every run -/

/-- An accepted text is shown and noted. -/
theorem ShowsNoted.dispatch {s : Core w} {message : DialogMessage w} {channel : Str}
    (shows : ShowsNoted s) (action : message.mAction = .message)
    (delivered : Delivered p env s message channel) (fresh : IsFresh s message) {text : Str}
    (read : decryptMessageBody p s.mCiphers message.mDialogId message.mContent = .ok text) :
    ShowsNoted (SecureDialogues.dispatch p env message channel s).2 := by
  obtain ⟨dialog, found, newer⟩ := fresh
  have found' : (ackedState env s message channel).mDialogStorage.find message.mDialogId =
      some dialog := found
  rw [dispatch_of_other (by simp [action]), dispatchMessage_of_delivered delivered,
    runHandlers_of_message action, textHandle_of_read found' newer read]
  intro dialogId
  have acked := notedTexts_append (fun event member =>
    isTextual_of_isNote (ackEvents_notes env s message channel event member)) dialogId s.log
  show _ = notedTexts dialogId ((s.log ++ ackEvents env s message channel) ++
    [.textAdded message.mDialogId message.mSequentialNumber text])
  rw [incomingTexts_textState, notedTexts, List.foldl_append]
  show incomingTexts s dialogId ++ _ = (if message.mDialogId = dialogId then
    notedTexts dialogId (s.log ++ ackEvents env s message channel) ++ [text]
    else notedTexts dialogId (s.log ++ ackEvents env s message channel))
  rw [acked, shows dialogId]
  split
  · rfl
  · exact List.append_nil _

theorem ShowsNoted.exec {s : Core w} (shows : ShowsNoted s) :
    ShowsNoted (exec p env input s) := by
  by_cases restart : input = .restart
  · subst restart
    rw [exec_restart]
    intro dialogId
    simp [incomingTexts, MessageContainer.messagesOf, MessageContainer.empty, Core.restart,
      notedTexts]
  by_cases alive : s.alive = true
  swap
  · rw [exec_of_dead p env (by simp [alive, restart])]
    exact shows
  obtain ⟨running, performed⟩ := exec_of_alive p env input alive
  by_cases brings : BringsText p env s input
  · obtain ⟨message, channel, rfl, action, delivered, fresh, text, read⟩ := brings
    rw [performed]
    exact shows.dispatch action delivered fresh read
  · intro dialogId
    have noted := notedTexts_of_moves (exec_moves p env restart s) brings dialogId
    refine Eq.trans ?_ ((shows dialogId).trans noted.symm)
    by_cases text : ∃ message channel, input = .dispatch message channel ∧ message.mAction = .message
    · obtain ⟨message, channel, rfl, action⟩ := text
      by_contra changed
      rw [incomingTexts_congr (exec_dispatch_messages alive)] at changed
      obtain ⟨delivered, fresh, read⟩ := (dispatch_shows_iff action s).mp ⟨dialogId, changed⟩
      exact brings ⟨message, channel, rfl, action, delivered, fresh, read⟩
    · rw [performed]
      have same : incomingTexts (perform p env input s).2 = incomingTexts s :=
        incomingTexts_perform
          (fun message channel cause action => text ⟨message, channel, cause, action⟩) restart s
      exact congrFun same dialogId

theorem showsNoted_initial : ShowsNoted (Core.initial : Core w) := by
  intro dialogId
  simp [incomingTexts, MessageContainer.messagesOf, MessageContainer.empty, Core.initial, notedTexts]

end

end SecureDialogues
