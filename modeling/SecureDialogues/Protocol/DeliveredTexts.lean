import SecureDialogues.Lib.Duplex
import SecureDialogues.Protocol.TextFlow
import SecureDialogues.Stepwise.Acknowledgements
import SecureDialogues.Stepwise.OwnTexts

/-!
# Delivered texts

Two instances over a network that delays, reorders, duplicates and loses messages. A text of the
user becomes delivered on an ACK, and the despatcher of the other side acknowledges what it is given
before it checks anything: the text has reached the other side's despatcher, and gets to the other
user if it passes the checks there.
-/

namespace SecureDialogues

open Text Effect

section

variable {w : Nat}

/-! ## One side -/

/-- A text of the user was handed to a channel as this message. -/
structure IsSentAs (p : Platform w) (s : Core w) (dialogId text : Str) (message : DialogMessage w) :
    Prop where
  handed : ∃ channel sent, .handed channel message sent ∈ s.log
  action : message.mAction = .message
  dialogId : message.mDialogId = dialogId
  content : ∃ key, p.aesEncrypt key text = .ok message.mContent

theorem IsSentAs.mono {p : Platform w} {s s' : Core w} {dialogId text : Str}
    {message : DialogMessage w} (sent : IsSentAs p s dialogId text message)
    (grows : ∃ events, s'.log = s.log ++ events) : IsSentAs p s' dialogId text message where
  handed := by
    obtain ⟨channel, outcome, member⟩ := sent.handed
    obtain ⟨events, log⟩ := grows
    rw [log]
    exact ⟨channel, outcome, List.mem_append_left _ member⟩
  action := sent.action
  dialogId := sent.dialogId
  content := sent.content

/-- No text of the user is shown and none waits for its ACK. -/
structure HasNoTexts (s : Core w) : Prop where
  shown : ∀ dialogId number message, s.mMessageContainer.Shows dialogId number message →
    message.mType ≠ .outgoing
  pending : ∀ k dialogId number, ¬ s.Pends k dialogId number

/-- The texts of the user are accounted for: those with a pending callback were sent under its key,
and those that are delivered under a key that was acknowledged. -/
structure TextsAccounted (p : Platform w) (acked : NumberedKey w → Prop) (s : Core w) : Prop where
  numbers : ∀ dialogId number message, s.mMessageContainer.Shows dialogId number message →
    message.mType = .outgoing → number < s.mMessageContainer.mNext
  pending : ∀ k dialogId number, s.Pends k dialogId number →
    number < s.mMessageContainer.mNext ∧
      ∀ message, s.mMessageContainer.Shows dialogId number message → message.mType = .outgoing →
        ∃ sent, IsSentAs p s dialogId message.mContent sent ∧ sent.key = k
  delivered : ∀ dialogId number message, s.mMessageContainer.Shows dialogId number message →
    message.mType = .outgoing → message.mStatus = .deliveried →
      ∃ sent, IsSentAs p s dialogId message.mContent sent ∧ acked sent.key

namespace TextsAccounted

variable {p : Platform w} {env : Env w} {acked acked' : NumberedKey w → Prop} {s s' : Core w}

theorem mono (accounted : TextsAccounted p acked s) (more : ∀ k, acked k → acked' k) :
    TextsAccounted p acked' s where
  numbers := accounted.numbers
  pending := accounted.pending
  delivered dialogId number message shows own done := by
    obtain ⟨sent, isSent, confirmed⟩ := accounted.delivered dialogId number message shows own done
    exact ⟨sent, isSent, more _ confirmed⟩

theorem keepsTexts (accounted : TextsAccounted p acked s) (keeps : KeepsTexts s s')
    (grows : ∃ events, s'.log = s.log ++ events) : TextsAccounted p acked s' where
  numbers dialogId number message shows own := by
    rw [keeps.shows _ _ _ own] at shows
    exact (accounted.numbers dialogId number message shows own).trans_le keeps.numbers
  pending k dialogId number pends := by
    obtain ⟨below, sentAs⟩ := accounted.pending k dialogId number ((keeps.pends _ _ _).mp pends)
    refine ⟨below.trans_le keeps.numbers, ?_⟩
    intro message shows own
    rw [keeps.shows _ _ _ own] at shows
    obtain ⟨sent, isSent, under⟩ := sentAs message shows own
    exact ⟨sent, isSent.mono grows, under⟩
  delivered dialogId number message shows own done := by
    rw [keeps.shows _ _ _ own] at shows
    obtain ⟨sent, isSent, confirmed⟩ := accounted.delivered dialogId number message shows own done
    exact ⟨sent, isSent.mono grows, confirmed⟩

theorem of_none (noTexts : HasNoTexts s) : TextsAccounted p acked s where
  numbers dialogId number message shows own :=
    absurd own (noTexts.shown dialogId number message shows)
  pending k dialogId number pends := absurd pends (noTexts.pending k dialogId number)
  delivered dialogId number message shows own :=
    absurd own (noTexts.shown dialogId number message shows)

/-- The callback of a text runs. -/
theorem settleText (accounted : TextsAccounted p acked s) {k : NumberedKey w} {dialogId : Str}
    {number : Nat} {status : UserMessage.Status} (pends : s.Pends k dialogId number)
    (confirmed : status = .deliveried → acked k) :
    TextsAccounted p acked (s.settleText k dialogId number status) where
  numbers owner last message shows own := by
    obtain ⟨before, stood, rfl⟩ := (MessageContainer.shows_updateMessage _ _ _ _ _ _ _).mp shows
    rw [Core.settleText, MessageContainer.mNext_updateMessage]
    apply accounted.numbers owner last before stood
    split at own <;> exact own
  pending other owner last pending := by
    obtain ⟨before, -⟩ := (pends_settleText _ _ _ _ _ _ _ _).mp pending
    obtain ⟨below, sentAs⟩ := accounted.pending other owner last before
    rw [Core.settleText, MessageContainer.mNext_updateMessage]
    refine ⟨below, ?_⟩
    intro message shows own
    obtain ⟨old, stood, rfl⟩ := (MessageContainer.shows_updateMessage _ _ _ _ _ _ _).mp shows
    have same : (if owner = dialogId ∧ last = number then old.updateStatus status
        else old).mContent = old.mContent := by
      split <;> rfl
    rw [same]
    obtain ⟨sent, isSent, under⟩ := sentAs old stood (by split at own <;> exact own)
    exact ⟨sent, isSent.mono ⟨[], (List.append_nil _).symm⟩, under⟩
  delivered owner last message shows own done := by
    obtain ⟨old, stood, rfl⟩ := (MessageContainer.shows_updateMessage _ _ _ _ _ _ _).mp shows
    by_cases this : owner = dialogId ∧ last = number
    · rw [if_pos this] at own done ⊢
      obtain ⟨rfl, rfl⟩ := this
      obtain ⟨sent, isSent, under⟩ := (accounted.pending k owner last pends).2 old stood own
      rw [← under] at confirmed
      exact ⟨sent, isSent.mono ⟨[], (List.append_nil _).symm⟩, confirmed done⟩
    · rw [if_neg this] at own done ⊢
      obtain ⟨sent, isSent, under⟩ := accounted.delivered owner last old stood own done
      exact ⟨sent, isSent.mono ⟨[], (List.append_nil _).symm⟩, under⟩

/-- A new text is shown, and was handed to a channel if its callback is pending. -/
theorem newText {text content : Str} {dialog : Dialog w} {contact : Contact}
    (accounted : TextsAccounted p acked s) (shows : ShowsText p s text dialog contact content)
    (shown : TextShown env s s' text dialog contact content) : TextsAccounted p acked s' := by
  have next : s'.mMessageContainer.mNext = s.mMessageContainer.mNext + 1 := by
    rw [shown.container]
    rfl
  have entries : ∀ owner last message, s'.mMessageContainer.Shows owner last message ↔
      s.mMessageContainer.Shows owner last message ∨
        owner = s.mMessageContainer.mActiveDialog ∧ last = s.mMessageContainer.mNext ∧
          message = MessageContainer.textMessage text false := by
    intro owner last message
    rw [shown.container, MessageContainer.addText, MessageContainer.shows_addMessage]
  refine ⟨?_, ?_, ?_⟩
  · intro owner last message stands own
    rw [next]
    rcases (entries owner last message).mp stands with old | ⟨-, rfl, -⟩
    · exact Nat.lt_succ_of_lt (accounted.numbers owner last message old own)
    · exact Nat.lt_succ_self _
  · intro k owner last pends
    rw [next]
    rcases (shown.pends_iff k owner last).mp pends with old | ⟨pending, rfl, rfl, rfl⟩
    · obtain ⟨below, sentAs⟩ := accounted.pending k owner last old
      refine ⟨Nat.lt_succ_of_lt below, ?_⟩
      intro message stands own
      rcases (entries owner last message).mp stands with old | ⟨-, rfl, -⟩
      · obtain ⟨sent, isSent, under⟩ := sentAs message old own
        exact ⟨sent, isSent.mono shown.log, under⟩
      · exact absurd below (Nat.lt_irrefl _)
    · refine ⟨Nat.lt_succ_self _, ?_⟩
      intro message stands own
      rcases (entries _ _ message).mp stands with old | ⟨-, -, rfl⟩
      · exact absurd (accounted.numbers _ _ message old own) (Nat.lt_irrefl _)
      · obtain ⟨sign, outcome, log⟩ := shown.handed pending.1
        have handed : .handed contact.channelMoniker ((textRequest env dialog contact text
            content).setSignature sign) outcome ∈ s'.log := by
          rw [log]
          exact List.mem_append_right _ (List.mem_singleton_self _)
        refine ⟨_, ⟨⟨_, outcome, handed⟩, rfl, ?_, ?_⟩, rfl⟩
        · exact DialogStorage.mDialogId_of_find shows.stored
        · have encrypted := shows.encrypted
          unfold encryptMessageBody at encrypted
          split at encrypted
          · rename_i element _
            exact ⟨element.cipher, encrypted⟩
          · cases encrypted
  · intro owner last message stands own done
    rcases (entries owner last message).mp stands with old | ⟨-, -, rfl⟩
    · obtain ⟨sent, isSent, confirmed⟩ := accounted.delivered owner last message old own done
      exact ⟨sent, isSent.mono shown.log, confirmed⟩
    · cases done

end TextsAccounted

theorem next_log (p : Platform w) (s : Core w) (step : Step w) :
    ∃ events, (next p s step).log = s.log ++ events := by
  rcases acksOnly_next p s step with ⟨events, log, -⟩ | ⟨_, _, _, _, _, events, log, -⟩
  · exact ⟨events, log⟩
  · exact ⟨events, log⟩

/-- A step keeps the texts accounted for, if the ACK that it may bring is accounted for. -/
theorem TextsAccounted.next {p : Platform w} {acked : NumberedKey w → Prop} {s : Core w}
    (accounted : TextsAccounted p acked s) (step : Step w)
    (confirmed : ∀ message channelName, step.2 = .dispatch message channelName →
      message.mAction = .ack → acked message.key) :
    TextsAccounted p acked (SecureDialogues.next p s step) := by
  have grows := next_log p s step
  cases textStep_next (p := p) s step with
  | keeps keeps nothing => exact accounted.keepsTexts keeps grows
  | restart cause fresh =>
    rw [fresh]
    apply TextsAccounted.of_none
    constructor
    · intro dialogId number message shows
      cases shows
    · rintro k dialogId number ⟨stored, found, -⟩
      simp [Core.restart] at found
  | @settle k dialogId number status _ cause pends keeps =>
    have settled : TextsAccounted p acked (s.settleText k dialogId number status) := by
      apply accounted.settleText pends
      intro done
      obtain ⟨env, input⟩ := step
      cases cause with
      | ack channelName action => exact confirmed _ channelName rfl action
      | expiry => cases done
    exact settled.keepsTexts keeps grows
  | @newText text dialog contact content s₁ _ alive cause shows shown keeps log =>
    have start : TextsAccounted p acked (textStart p s) := by
      apply accounted.keepsTexts (keepsTexts_textStart p s)
      unfold textStart
      split
      · exact ⟨[_], rfl⟩
      · exact ⟨[], (List.append_nil _).symm⟩
    apply (start.newText shows shown).keepsTexts keeps
    exact ⟨[], by rw [log, List.append_nil]⟩

/-- A text that passes the checks of the despatcher and of the handler, and can be read. -/
structure PassesChecks (p : Platform w) (env : Env w) (s : Core w) (message : DialogMessage w)
    (channel text : Str) : Prop where
  action : message.mAction = .message
  delivered : Delivered p env s message channel
  fresh : IsFresh s message
  readable : decryptMessageBody p s.mCiphers message.mDialogId message.mContent = .ok text

/-- Such a text is given to the message container. -/
theorem messagesOf_of_passesChecks {p : Platform w} {env : Env w} {s : Core w}
    {message : DialogMessage w} {channel text : Str} (alive : s.alive = true)
    (passes : PassesChecks p env s message channel text) :
    (exec p env (.dispatch message channel) s).mMessageContainer.messagesOf message.mDialogId =
      s.mMessageContainer.messagesOf message.mDialogId ++
        [MessageContainer.textMessage text true] := by
  obtain ⟨dialog, found, newer⟩ := passes.fresh
  have acked : Unaffected s (ackedState env s message channel) :=
    (ackedState_noted env s message channel).unaffected
  rw [exec_dispatch_messages alive, dispatch_of_other (by simp [passes.action]),
    dispatchMessage_of_delivered passes.delivered, runHandlers_of_message passes.action,
    textHandle_of_read (s := ackedState env s message channel) found newer passes.readable]
  simp [textState, Core.record, MessageContainer.addText, MessageContainer.messagesOf_addMessage,
    acked.messages]

/-! ## Both sides -/

/-- The states of the two instances. -/
abbrev Pair (w : Nat) := Duplex.Side → Core w

namespace Pair

variable (platform : Duplex.Side → Platform w)

/-- A step of one of the two. -/
def next (pair : Pair w) (happening : Duplex.Side × Step w) : Pair w :=
  Function.update pair happening.1
    (SecureDialogues.next (platform happening.1) (pair happening.1) happening.2)

/-- What the side has transmitted since the start of the run. -/
def sentBy (start pair : Pair w) (side : Duplex.Side) : List (DialogMessage w) :=
  transmitted (start side) (pair side)

/-- The message is one that the side has transmitted, as it arrives: from some address. -/
def ComesFrom (start pair : Pair w) (side : Duplex.Side) (message : DialogMessage w) : Prop :=
  ∃ sent ∈ sentBy start pair side, ∃ address, message = { sent with mAdress := address }

instance (start pair : Pair w) (side : Duplex.Side) (message : DialogMessage w) :
    Decidable (ComesFrom start pair side message) :=
  decidable_of_iff (∃ sent ∈ sentBy start pair side,
      message = { sent with mAdress := message.mAdress })
    ⟨fun ⟨sent, member, same⟩ => ⟨sent, member, message.mAdress, same⟩,
      fun ⟨sent, member, address, same⟩ => ⟨sent, member, by rw [same]⟩⟩

/-- The network may deliver what was transmitted at any later time, in any order, any number of
times or never. It forges nothing. -/
def Unforged (start pair : Pair w) (happening : Duplex.Side × Step w) : Prop :=
  ∀ message channel, happening.2.2 = .dispatch message channel →
    ComesFrom start pair happening.1.other message

theorem unforged_of_other {start pair : Pair w} {happening : Duplex.Side × Step w}
    (other : ∀ message channel, happening.2.2 ≠ .dispatch message channel) :
    Unforged start pair happening := fun message channel input => absurd input (other message channel)

instance (start pair : Pair w) : (happening : Duplex.Side × Step w) →
    Decidable (Unforged start pair happening)
  | (side, env, .dispatch message channel) =>
    decidable_of_iff (ComesFrom start pair side.other message)
      ⟨fun comes other _ input => by cases input; exact comes, fun honest => honest _ _ rfl⟩
  | (_, _, .saveContact _) | (_, _, .addChannel _ _) | (_, _, .removeChannel _)
  | (_, _, .createDialog _) | (_, _, .closeDialog _) | (_, _, .abortDialog _)
  | (_, _, .removeDialog _) | (_, _, .setActiveDialog _) | (_, _, .sendMessage _)
  | (_, _, .expire _) | (_, _, .restart) => isTrue (unforged_of_other (by simp))

/-- The step gives the text to the message container of the side, as an incoming message. -/
def Receives (side : Duplex.Side) (dialogId text : Str) (pair : Pair w)
    (happening : Duplex.Side × Step w) : Prop :=
  happening.1 = side ∧
    (next platform pair happening side).mMessageContainer.messagesOf dialogId =
      (pair side).mMessageContainer.messagesOf dialogId ++ [MessageContainer.textMessage text true]

instance (side : Duplex.Side) (dialogId text : Str) (pair : Pair w)
    (happening : Duplex.Side × Step w) :
    Decidable (Receives platform side dialogId text pair happening) :=
  inferInstanceAs (Decidable (_ ∧ _))

/-- The step gives the message to the despatcher of the side, which acknowledges it. A text that
passes the checks is given to the message container. -/
structure Gives (side : Duplex.Side) (message : DialogMessage w) (pair : Pair w)
    (happening : Duplex.Side × Step w) : Prop where
  receiver : happening.1 = side
  given : ∃ channel, happening.2.2 = .dispatch message channel
  acknowledged : ∃ ack ∈ transmitted (pair side) (next platform pair happening side),
    ack.mAction = .ack ∧ ack.key = message.key
  shown : ∀ channel text, happening.2.2 = .dispatch message channel →
    PassesChecks (platform side) happening.2.1 (pair side) message channel text →
      Receives platform side message.mDialogId text pair happening

variable {platform} {start pair : Pair w} {side : Duplex.Side}

theorem next_same (happening : Duplex.Side × Step w) :
    next platform pair happening happening.1 =
      SecureDialogues.next (platform happening.1) (pair happening.1) happening.2 :=
  Function.update_self ..

theorem next_other {happening : Duplex.Side × Step w} (other : side ≠ happening.1) :
    next platform pair happening side = pair side :=
  Function.update_of_ne other ..

/-- The log of the side has grown since the start of the run. -/
def HasGrown (start pair : Pair w) (side : Duplex.Side) : Prop :=
  ∃ events, (pair side).log = (start side).log ++ events

theorem log_next (pair : Pair w) (happening : Duplex.Side × Step w) (side : Duplex.Side) :
    HasGrown pair (next platform pair happening) side := by
  by_cases same : side = happening.1
  · subst same
    rw [HasGrown, next_same]
    exact next_log _ _ _
  · rw [HasGrown, next_other same]
    exact ⟨[], (List.append_nil _).symm⟩

theorem HasGrown.trans {later : Pair w} (first : HasGrown start pair side)
    (second : HasGrown pair later side) : HasGrown start later side := by
  obtain ⟨events, log⟩ := first
  obtain ⟨more, log'⟩ := second
  exact ⟨events ++ more, by rw [log', log, List.append_assoc]⟩

theorem sentBy_trans {later : Pair w} (first : HasGrown start pair side)
    (second : HasGrown pair later side) :
    sentBy start later side = sentBy start pair side ++ transmitted (pair side) (later side) := by
  obtain ⟨events, log⟩ := first
  obtain ⟨more, log'⟩ := second
  have total : (later side).log = (start side).log ++ (events ++ more) := by
    rw [log', log, List.append_assoc]
  rw [sentBy, sentBy, transmitted_eq log, transmitted_eq log', transmitted_eq total,
    transmittedOf_append]

theorem ComesFrom.mono {later : Pair w} {message : DialogMessage w}
    (comes : ComesFrom start pair side message) (first : HasGrown start pair side)
    (second : HasGrown pair later side) : ComesFrom start later side message := by
  obtain ⟨sent, member, address⟩ := comes
  refine ⟨sent, ?_, address⟩
  rw [sentBy_trans first second]
  exact List.mem_append_left _ member

/-- A step that transmits an ACK gives the message that is acknowledged to the despatcher. -/
theorem gives_of_ack {happening : Duplex.Side × Step w} {ack : DialogMessage w}
    (member : ack ∈ transmitted (pair side) (next platform pair happening side))
    (action : ack.mAction = .ack) :
    ∃ message channel, happening.2.2 = .dispatch message channel ∧ happening.1 = side ∧
      message.key = ack.key ∧ Gives platform side message pair happening := by
  by_cases same : side = happening.1
  swap
  · rw [next_other same, transmitted_self] at member
    cases member
  subst same
  rw [next_same] at member
  rcases acksOnly_next (platform happening.1) (pair happening.1) happening.2 with
    ⟨events, log, silent⟩ | ⟨message, channel, input, other, alive, events, log, only⟩
  · rw [transmitted_eq log] at member
    exact absurd action (silent ack member)
  · have key : ack.key = message.key := by
      rw [transmitted_eq log] at member
      exact only ack member action
    refine ⟨message, channel, input, rfl, key.symm, rfl, ⟨channel, input⟩, ?_, ?_⟩
    · rw [next_same]
      exact ⟨ack, member, action, key⟩
    · intro arrived text dispatched passes
      refine ⟨rfl, ?_⟩
      rw [next_same, SecureDialogues.next, dispatched]
      exact messagesOf_of_passesChecks alive passes

/-! ## Runs -/

/-- What the side has acknowledged since the start of the run. -/
def Acked (start pair : Pair w) (side : Duplex.Side) (k : NumberedKey w) : Prop :=
  ∃ ack ∈ sentBy start pair side, ack.mAction = .ack ∧ ack.key = k

/-- What a run so far has come to. -/
structure History (platform : Duplex.Side → Platform w) (start : Pair w)
    (happenings : List (Duplex.Side × Step w)) (pair : Pair w) : Prop where
  log : ∀ side, HasGrown start pair side
  acks : ∀ side, ∀ ack ∈ sentBy start pair side, ack.mAction = .ack →
    ∃ given : DialogMessage w, given.key = ack.key ∧ ComesFrom start pair side.other given ∧
      Run.Happens (next platform) (Gives platform side given) start happenings
  texts : ∀ side, HasNoTexts (start side) →
    TextsAccounted (platform side) (Acked start pair side.other) (pair side)

theorem History.nil (platform : Duplex.Side → Platform w) (start : Pair w) :
    History platform start [] start where
  log side := ⟨[], (List.append_nil _).symm⟩
  acks side ack member := by
    rw [sentBy, transmitted_self] at member
    cases member
  texts side noTexts := .of_none noTexts

/-- A step that forges nothing continues the history. -/
theorem History.concat {happenings : List (Duplex.Side × Step w)}
    (history : History platform start happenings pair)
    (reached : pair = Run.after (next platform) start happenings)
    {happening : Duplex.Side × Step w} (unforged : Unforged start pair happening) :
    History platform start (happenings ++ [happening]) (next platform pair happening) where
  log side := (history.log side).trans (log_next pair happening side)
  acks side ack member action := by
    have grown : HasGrown pair (next platform pair happening) side.other := log_next _ _ _
    rw [sentBy_trans (history.log side) (log_next pair happening side)] at member
    rcases List.mem_append.mp member with old | new
    · obtain ⟨given, key, comes, happens⟩ := history.acks side ack old action
      exact ⟨given, key, comes.mono (history.log _) grown, happens.concat happening⟩
    · obtain ⟨given, channel, input, receiver, key, gives⟩ := gives_of_ack new action
      have comes := unforged given channel input
      rw [receiver] at comes
      refine ⟨given, key, comes.mono (history.log _) grown, ?_⟩
      rw [reached] at gives
      exact Run.happens_concat gives
  texts side noTexts := by
    have accounted := history.texts side noTexts
    have more : ∀ k, Acked start pair side.other k →
        Acked start (next platform pair happening) side.other k := by
      rintro k ⟨ack, member, confirmed⟩
      refine ⟨ack, ?_, confirmed⟩
      rw [sentBy_trans (history.log side.other) (log_next pair happening side.other)]
      exact List.mem_append_left _ member
    by_cases same : side = happening.1
    swap
    · rw [next_other same]
      exact accounted.mono more
    subst same
    rw [next_same]
    apply TextsAccounted.next (accounted.mono more)
    intro message channel input action
    obtain ⟨sent, member, address, rfl⟩ := unforged message channel input
    exact more _ ⟨sent, member, action, rfl⟩

theorem history_after {happenings : List (Duplex.Side × Step w)}
    (unforged : Run.Along (next platform) (Unforged start) start happenings) :
    History platform start happenings (Run.after (next platform) start happenings) := by
  apply Run.history_after (C := Unforged start) (History.nil platform start) ?_ unforged
  intro before happening history honest
  exact history.concat rfl honest

end Pair

/-- In every run of two instances, a text that is delivered was handed to a channel, and the
despatcher of the other side was given and has acknowledged a message with its number: the text
itself, unless the number was used twice. It gets to the other user if it passes the checks. -/
theorem delivered_is_acknowledged {platform : Duplex.Side → Platform w} {start : Pair w}
    {happenings : List (Duplex.Side × Step w)}
    (unforged : Run.Along (Pair.next platform) (Pair.Unforged start) start happenings)
    (side : Duplex.Side) (noTexts : HasNoTexts (start side)) {final : Pair w}
    (reached : final = Run.after (Pair.next platform) start happenings)
    {dialogId : Str} {number : Nat} {message : UserMessage}
    (shows : (final side).mMessageContainer.Shows dialogId number message)
    (own : message.mType = .outgoing) (delivered : message.mStatus = .deliveried) :
    ∃ sent given : DialogMessage w,
      IsSentAs (platform side) (final side) dialogId message.mContent sent ∧
      given.key = sent.key ∧ Pair.ComesFrom start final side given ∧
      ((∀ other ∈ Pair.sentBy start final side, other.key = sent.key → other = sent) →
        ∃ address, given = { sent with mAdress := address }) ∧
      Run.Happens (Pair.next platform) (Pair.Gives platform side.other given) start happenings := by
  subst reached
  have history := Pair.history_after unforged
  obtain ⟨sent, isSent, ack, member, action, key⟩ :=
    (history.texts side noTexts).delivered dialogId number message shows own delivered
  obtain ⟨given, same, comes, happens⟩ := history.acks side.other ack member action
  rw [Duplex.Side.other_other] at comes
  refine ⟨sent, given, isSent, same.trans key, comes, ?_, happens⟩
  intro once
  obtain ⟨original, stood, address, rfl⟩ := comes
  obtain rfl : original = sent := once original stood (same.trans key)
  exact ⟨address, rfl⟩

end

/-! ## A text and its ACK -/

namespace Sample

/-- The dialog is ACTIVE on both sides. -/
def ends : Pair 64 := fun _ => run established

theorem ends_hasNoTexts (side : Duplex.Side) : HasNoTexts (ends side) := by
  have fresh : (run established).mMessageContainer = .empty := by decide +kernel
  have idle : (run established).mRepo = ∅ := by decide +kernel
  constructor
  · intro dialogId number message shows
    rw [ends, fresh] at shows
    cases shows
  · rintro k dialogId number ⟨stored, found, -⟩
    simp [ends, idle] at found

/-- The left user's text. -/
def hello : DialogMessage 64 := incoming .message 8 (str "hello")

/-- The right side's answer. -/
def helloAck : DialogMessage 64 :=
  (makeAck env.getTimestamp hello).setSignature (str "c2lnbg==")

/-- The left user sends a text, which the right side is given, and its ACK comes back. -/
def exchange : List (Duplex.Side × Step 64) :=
  [(.left, (env, .setActiveDialog (str "dialog"))), (.left, (env, .sendMessage (str "hello"))),
    (.right, (env, .dispatch hello channel)), (.left, (env, .dispatch helloAck channel))]

def exchanged : Pair 64 := Run.after (Pair.next fun _ => platform) ends exchange

end Sample

theorem delivered_is_acknowledged_hello : ∃ sent given : DialogMessage 64,
    IsSentAs Sample.platform (Sample.exchanged .left) (str "dialog") (str "hello") sent ∧
    given.key = sent.key ∧ Pair.ComesFrom Sample.ends Sample.exchanged .left given ∧
    ((∀ other ∈ Pair.sentBy Sample.ends Sample.exchanged .left,
        other.key = sent.key → other = sent) →
      ∃ address, given = { sent with mAdress := address }) ∧
    Run.Happens (Pair.next fun _ => Sample.platform)
      (Pair.Gives (fun _ => Sample.platform) .right given) Sample.ends Sample.exchange := by
  have shows : (Sample.exchanged .left).mMessageContainer.Shows (str "dialog") 0
      ((MessageContainer.textMessage (str "hello") false).updateStatus .deliveried) := by
    decide +kernel
  have unforged : Run.Along (Pair.next fun _ => Sample.platform) (Pair.Unforged Sample.ends)
      Sample.ends Sample.exchange := by
    decide +kernel
  exact delivered_is_acknowledged unforged .left (Sample.ends_hasNoTexts .left) rfl shows rfl rfl

end SecureDialogues
