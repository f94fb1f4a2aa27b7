import SecureDialogues.Protocol.TextMoves

/-!
# Every step is a sequence of moves

The delivery callbacks, the despatcher, and the simulation: what a step of an instance does to the
protocol's view is a sequence of the protocol's moves.
-/

namespace SecureDialogues

open Text Effect

section

variable {w : Nat} {p : Platform w} {env : Env w} {start : Core w} {input : Input w}
  {message : DialogMessage w} {channel : Str}

/-! ## Delivery callbacks -/

/-- The pending delivery under a key, as the view shows it. -/
theorem view_pending_of_stored {s : Core w} {k : NumberedKey w}
    {stored : StoredElement DeliveryHandler} (found : s.mRepo[k]? = some stored) :
    s.view.pending k = some stored.element := by
  simp [Core.view, found]

/-- An ACK: the callback of its entry runs in the state in which the step began. -/
theorem removeEntry_does (cause : input = .dispatch message channel)
    (action : message.mAction = .ack) :
    Eff.Does (Moves p env start input)
      (removeEntry p (message.mDialogId, message.mSequentialNumber)) start fun _ _ => True := by
  unfold removeEntry
  rw [Eff.Does, Eff.reads_bind]
  cases found : start.mRepo[(message.mDialogId, message.mSequentialNumber)]? with
  | none => exact ⟨.refl, trivial⟩
  | some stored =>
    have waiting := view_pending_of_stored found
    simp only
    cases handler : stored.element with
    | messageNotDeliveried owner number =>
      rw [handler] at waiting
      have ended : Move p env start input start.view _ := .endText waiting
      rw [← Core.view_erase] at ended
      exact ⟨.single ended, trivial⟩
    | dialogAction dialogId mNext mAbortNeed mAddress mChannel =>
      rw [handler] at waiting
      simp only [removed]
      rw [Eff.bind_assoc]
      cases lookup : start.mDialogStorage.find dialogId with
      | none =>
        rw [Eff.bind_error (wrapper_of_none p lookup)]
        exact ⟨.refl, trivial⟩
      | some dialog =>
        obtain rfl := DialogStorage.mDialogId_of_find lookup
        rw [Eff.bind_ok (wrapper_of_some p lookup), Eff.bind_assoc]
        cases allowed : isStateTransitionAllowed dialog.mStatus mNext with
        | false =>
          obtain ⟨e, refused⟩ := setStatus_of_refused p allowed start
          rw [Eff.bind_error refused]
          exact ⟨.refl, trivial⟩
        | true =>
          rw [Eff.bind_ok (setStatus_of_allowed p allowed start)]
          refine ⟨.single ?_, trivial⟩
          simp only [save, Eff.update_bind, Eff.pure_apply]
          rw [Core.view_erase, Core.view_saveDialog]
          exact .removed cause action rfl waiting lookup allowed

/-- The last part of `timeouted`: the user hears of it and the dialog is aborted. -/
theorem abortNotified_eq (current : Dialog w) (notice : Str) (s : Core w) :
    (current.mStatus.isEnded = false ∧
      (do
        notify .error notice
        let dialog ← setStatus p current .aborted
        save p dialog : M w Unit) s =
          (.ok (), (s.record (.notified .error notice)).saveDialog p (current.withStatus .aborted))) ∨
    current.mStatus.isEnded = true ∧ ∃ e,
      (do
        notify .error notice
        let dialog ← setStatus p current .aborted
        save p dialog : M w Unit) s = (.error (.thrown e), s.record (.notified .error notice)) := by
  rw [notify, Eff.update_bind]
  cases open' : current.mStatus.isEnded with
  | false =>
    rw [Eff.bind_ok (setAborted_of_open p open' _)]
    exact .inl ⟨rfl, rfl⟩
  | true =>
    obtain ⟨e, refused⟩ := setAborted_of_ended p open' (s.record (.notified .error notice))
    rw [Eff.bind_error refused]
    exact .inr ⟨rfl, e, rfl⟩

/-- What `timeouted` of a control message hands over and notes. -/
def IsTimeoutEvent (mAbortNeed : Bool) (sent : Bool) (event : Event w) : Prop :=
  event.isNote = true ∨ mAbortNeed = true ∧
    ∃ channel message, event = .handed channel message sent ∧ message.mAction = .abort

/-- The ABORT of an expired control message is not signed. -/
def IsUnsignedAbort (env : Env w) (s : Core w) (dialog : Dialog w) (mAddress : Str) : Prop :=
  ∃ e, env.createSign s.log (marshall (makeAbort env.getTimestamp dialog.mDialogId mAddress
    (dialog.mThisSequental + 1))) = .error e

/-- The callback `timeouted` of a control message whose dialog is stored: the dialog is aborted, or
an exception leaves everything but the history as it was. -/
theorem timeouted_cases {dialog : Dialog w} {s : Core w} (mNext : Status) (mAbortNeed : Bool)
    (mAddress mChannel : Str) (found : s.mDialogStorage.find dialog.mDialogId = some dialog) :
    ∃ events : List (Event w),
      (dialog.mStatus.isEnded = false ∧ (∀ event ∈ events, IsTimeoutEvent mAbortNeed true event) ∧
        timeouted p env (.dialogAction dialog.mDialogId mNext mAbortNeed mAddress mChannel) s =
          (.ok (), ({ s with log := s.log ++ events } : Core w).saveDialog p
            ((if mAbortNeed then dialog.makeNextSequental else dialog).withStatus .aborted))) ∨
      (∃ sent, ∀ event ∈ events, IsTimeoutEvent mAbortNeed sent event) ∧
        (dialog.mStatus.isEnded = true ∨ mAbortNeed = true ∧
          (IsUnsignedAbort env s dialog mAddress ∨ SendFails s (s.log ++ events))) ∧
        ∃ e, timeouted p env (.dialogAction dialog.mDialogId mNext mAbortNeed mAddress mChannel) s =
          (.error (.thrown e), { s with log := s.log ++ events }) := by
  unfold timeouted
  simp only
  rw [Eff.bind_ok (wrapper_of_some p found)]
  generalize p.text "Dialog with \x7b\x7d was removed because participant didn't respond"
    [mAddress] = notice
  have isNote : ∀ sent, IsTimeoutEvent (w := w) mAbortNeed sent (.notified .error notice) :=
    fun _ => .inl rfl
  cases mAbortNeed with
  | false =>
    rw [if_neg (by simp), Eff.pure_bind]
    refine ⟨[.notified .error notice], ?_⟩
    rcases abortNotified_eq (p := p) dialog notice s with ⟨open', outcome⟩ | ⟨ended, e, outcome⟩
    · rw [outcome]
      exact .inl ⟨open', by simpa using isNote true, rfl⟩
    · rw [outcome]
      exact .inr ⟨⟨true, by simpa using isNote true⟩, .inl ended, e, rfl⟩
  | true =>
    rw [if_pos rfl]
    rcases sendAndForget_cases env (makeAbort env.getTimestamp dialog.makeNextSequental.mDialogId
        mAddress dialog.makeNextSequental.mThisSequental) mChannel s with
      ⟨e, unsigned, failed⟩ | ⟨-, skipped⟩ | ⟨sign, ⟨-, sent⟩ | ⟨e, fails, failed⟩⟩
    · rw [Eff.bind_error failed]
      exact ⟨[], .inr ⟨⟨true, by simp⟩, .inr ⟨rfl, .inl ⟨e, unsigned⟩⟩, e, by simp⟩⟩
    · rw [Eff.bind_ok skipped, Eff.pure_bind]
      refine ⟨[.notified .error notice], ?_⟩
      rcases abortNotified_eq (p := p) dialog.makeNextSequental notice s with
        ⟨open', outcome⟩ | ⟨ended, e, outcome⟩
      · rw [outcome]
        exact .inl ⟨open', by simpa using isNote true, rfl⟩
      · rw [outcome]
        exact .inr ⟨⟨true, by simpa using isNote true⟩, .inl ended, e, rfl⟩
    · rw [Eff.bind_ok sent, Eff.pure_bind]
      generalize made : ((makeAbort env.getTimestamp dialog.makeNextSequental.mDialogId
        mAddress dialog.makeNextSequental.mThisSequental).setSignature sign) = abort
      have action : abort.mAction = .abort := by
        rw [← made]
        rfl
      refine ⟨[.handed mChannel abort true, .notified .error notice], ?_⟩
      have events : ∀ event ∈ [Event.handed mChannel abort true, .notified .error notice],
          IsTimeoutEvent true true event := by
        intro event member
        rcases List.mem_pair.mp member with rfl | rfl
        · exact .inr ⟨rfl, mChannel, abort, rfl, action⟩
        · exact isNote true
      rcases abortNotified_eq (p := p) dialog.makeNextSequental notice
          (s.record (.handed mChannel abort true)) with ⟨open', outcome⟩ | ⟨ended, e, outcome⟩
      · rw [outcome]
        refine .inl ⟨open', events, ?_⟩
        simp [Core.record]
      · rw [outcome]
        refine .inr ⟨⟨true, events⟩, .inl ended, e, ?_⟩
        simp [Core.record]
    · rw [Eff.bind_error failed]
      refine ⟨[.handed mChannel _ false], .inr ⟨⟨false, ?_⟩, .inr ⟨rfl, .inr ?_⟩, e, rfl⟩⟩
      · intro event member
        rw [List.mem_singleton] at member
        exact .inr ⟨rfl, _, _, member, rfl⟩
      · exact sendFails le_rfl _ rfl

theorem expireEntry_does {k : NumberedKey w} (cause : input = .expire k) :
    Eff.Does (Moves p env start input) (expireEntry p env k) start fun _ _ => True := by
  unfold expireEntry
  refine Eff.Does.noexcept ⟨?_, trivial⟩
  rw [Eff.reads_bind]
  cases overdue : start.mRepo.overdue env.systemClock k with
  | none => exact .refl
  | some element =>
    obtain ⟨stored, lookup, shape⟩ := TimeoutedRepository.overdue_eq_some _ overdue
    have waiting := view_pending_of_stored lookup
    rw [shape] at waiting
    simp only
    cases element with
    | messageNotDeliveried owner number =>
      have ended : Move p env start input start.view _ := .endText waiting
      rw [← Core.view_erase] at ended
      exact .single ended
    | dialogAction dialogId mNext mAbortNeed mAddress mChannel =>
      cases found : start.mDialogStorage.find dialogId with
      | none =>
        rw [timeouted, Eff.bind_error (Eff.bind_error (wrapper_of_none p found) _)]
        exact .refl
      | some dialog =>
        obtain rfl := DialogStorage.mDialogId_of_find found
        obtain ⟨events, ⟨open', handed, outcome⟩ | ⟨⟨sent, handed⟩, -, e, outcome⟩⟩ :=
          timeouted_cases (p := p) mNext mAbortNeed mAddress mChannel found
        · rw [Eff.bind_ok outcome]
          refine .single ?_
          rw [Eff.update_apply, Core.view_erase, Core.view_saveDialog]
          exact .timeouted cause rfl waiting overdue found open' handed
        · rw [Eff.bind_error outcome]
          refine .single (.timeoutFailed cause rfl waiting fun event member => ?_)
          apply (handed event member).imp_right
          rintro ⟨need, handedTo, carried, shape, abort⟩
          exact ⟨need, handedTo, carried, sent, shape, abort⟩

/-! ## The despatcher -/

/-- `sendAck` returns or throws, and makes a note at most. -/
theorem sendAck_cases (env : Env w) (message : DialogMessage w) (channel : Str) (s : Core w) :
    ∃ s', Noted s s' ∧
      (Acknowledges env s message channel ∧ sendAck env message channel s = (.ok (), s') ∨
        ¬ Acknowledges env s message channel ∧
          ∃ e, sendAck env message channel s = (.error (.thrown e), s')) := by
  unfold sendAck
  rw [Eff.reads_bind]
  by_cases due : message.mAction ≠ .abort ∧ 0 < message.mSequentialNumber ∧ channel ∈ s.mChannels
  swap
  · rw [if_neg due]
    refine ⟨s, Noted.refl, .inl ⟨?_, rfl⟩⟩
    by_contra refused
    simp only [Acknowledges, not_or, not_not] at refused
    exact due ⟨refused.1, refused.2.1, refused.2.2.1⟩
  rw [if_pos due]
  have attempt : Acknowledges env s message channel ↔ ∃ sign,
      env.createSign s.log (marshall (makeAck env.getTimestamp message)) = .ok sign ∧
        env.send s.log channel ((makeAck env.getTimestamp message).setSignature sign) = .ok () := by
    rw [Acknowledges, or_iff_right due.1, or_iff_right (not_not.mpr due.2.1),
      or_iff_right (not_not.mpr due.2.2)]
  rw [attempt, sendAndForget, createSignature, Eff.readsOr_bind]
  cases signed : env.createSign s.log (marshall (makeAck env.getTimestamp message)) with
  | error e => exact ⟨s, Noted.refl, .inr ⟨by simp, e, rfl⟩⟩
  | ok sign =>
    simp only [Eff.reads_bind]
    rw [if_pos due.2.2, channelSendMessage_eq]
    cases sent : env.send s.log channel ((makeAck env.getTimestamp message).setSignature sign) with
    | ok u => exact ⟨_, Noted.refl.record rfl, .inl ⟨⟨sign, rfl, sent⟩, rfl⟩⟩
    | error e =>
      refine ⟨_, Noted.refl.record rfl, .inr ⟨?_, e, rfl⟩⟩
      rintro ⟨_, same, returned⟩
      cases same
      rw [sent] at returned
      cases returned

theorem sendAck_does (message : DialogMessage w) (channel : Str) :
    Eff.Does (Moves p env start input) (sendAck env message channel) start fun r s' =>
      Noted start s' ∧ (r = .ok () → Acknowledges env start message channel) := by
  obtain ⟨s', noted, ⟨acknowledges, outcome⟩ | ⟨-, e, outcome⟩⟩ :=
    sendAck_cases env message channel start
  · rw [Eff.Does, outcome]
    exact ⟨noted.moves, noted, fun _ => acknowledges⟩
  · rw [Eff.Does, outcome]
    exact ⟨noted.moves, noted, fun returned => by cases returned⟩

/-- The error sink keeps contacts that were discovered, and nothing that the view shows. -/
theorem despatchError_view (error : DespatchError) (message : DialogMessage w) (channel : Str)
    (s : Core w) : (despatchError p env error message channel s).2.view = s.view := by
  cases error <;> try rfl
  simp only [despatchError]
  split
  swap
  · rfl
  rw [Eff.readsOr_bind]
  cases DiscoverContactAgent.getNameAndPublickKey p message.mContent with
  | error e => rfl
  | ok parts =>
    simp only [Eff.reads_bind]
    split <;> rfl

/-- The signature check: it changes nothing that the view shows, and where it says that the
signature is valid, it changed nothing at all. -/
theorem isSignatureValid_does (message : DialogMessage w) (channel : Str) (s : Core w) :
    Eff.Does (Moves p env start input) (isSignatureValid p env message channel) s fun r s' =>
      r = .ok true → s' = s ∧ isSignatureOk p s.mRemote message = .ok true := by
  unfold isSignatureValid
  rw [Eff.Does, Eff.noexcept, Eff.reads_bind]
  cases outcome : isSignatureOk p s.mRemote message with
  | ok valid => exact ⟨.refl, fun returned => ⟨rfl, by cases returned; rfl⟩⟩
  | error e =>
    simp only
    by_cases unknown : e.kind = .rangeError
    · rw [if_pos unknown, Eff.bind_apply]
      have same : (despatchError p env .contactNotFound message channel s).2.view = s.view :=
        despatchError_view .contactNotFound message channel s
      rcases sunk : despatchError p env .contactNotFound message channel s with ⟨(_ | _) | _, s'⟩
      all_goals
        rw [sunk] at same
        refine ⟨?_, fun returned => by cases returned⟩
        change Relation.ReflTransGen _ s.view s'.view
        rw [show s'.view = s.view from same]
    · rw [if_neg unknown]
      exact ⟨.refl, fun returned => by cases returned⟩

theorem dispatchMessage_does (cause : input = .dispatch message channel) :
    Eff.Does (Moves p env start input) (dispatchMessage p env message channel) start
      fun _ _ => True := by
  unfold dispatchMessage
  refine Eff.Does.bind (sendAck_does message channel) (fun _ s' _ acked => ?_)
    fun _ _ _ _ => trivial
  obtain ⟨noted, acknowledges⟩ := acked
  refine Eff.Does.bind (isSignatureValid_does message channel s') (fun valid s'' _ checked => ?_)
    fun _ _ _ _ => trivial
  have sink : ∀ error, Moves p env start input s''
      (despatchError p env error message channel s'').2 := by
    intro error
    change Relation.ReflTransGen _ s''.view _
    rw [despatchError_view]
  cases valid with
  | false =>
    rw [if_pos rfl]
    exact ⟨sink _, trivial⟩
  | true =>
    obtain ⟨rfl, valid⟩ := checked rfl
    rw [if_neg (by simp)]
    by_cases expired : isExpired env message
    · rw [if_pos expired]
      exact ⟨sink _, trivial⟩
    rw [if_neg expired]
    have delivered : Delivered p env start message channel := by
      obtain ⟨notes, rfl, -⟩ := noted
      exact ⟨acknowledges rfl, valid, expired⟩
    unfold runHandlers
    by_cases text : message.mAction = .message
    · have isText : MessageActionHandler.isItYouAction message.mAction = true := by rw [text]; rfl
      have noControl : DialogActionHandler.isItYouAction message.mAction = false := by rw [text]; rfl
      rw [if_pos isText]
      refine Eff.Does.bind (textHandle_does cause text delivered noted) (fun _ s₁ _ _ => ?_)
        fun _ _ _ _ => trivial
      rw [if_neg (by simp [noControl])]
      exact .pure trivial
    · have noText : ¬ MessageActionHandler.isItYouAction message.mAction = true := by
        simpa [MessageActionHandler.isItYouAction] using text
      rw [if_neg noText]
      by_cases control : DialogActionHandler.isItYouAction message.mAction = true
      · rw [if_pos control]
        exact controlHandle_does cause control delivered noted
      · rw [if_neg control]
        exact .pure trivial

/-! ## Steps -/

theorem dispatch_does (cause : input = .dispatch message channel) :
    Eff.Does (Moves p env start input) (dispatch p env message channel) start
      fun _ _ => True := by
  unfold dispatch
  apply Eff.Does.noexcept
  by_cases ack : message.mAction = .ack
  · rw [if_pos ack]
    refine Eff.Does.bind (removeEntry_does cause ack) (fun _ _ _ _ => .pure trivial)
      fun _ _ _ _ => trivial
  · rw [if_neg ack]
    exact dispatchMessage_does cause

/-- A change that the view does not show. -/
theorem moves_of_view {s s' : Core w} (same : s'.view = s.view) : Moves p env start input s s' := by
  change Relation.ReflTransGen _ s.view s'.view
  rw [same]

theorem perform_does (p : Platform w) (env : Env w) {input : Input w} (running : input ≠ .restart)
    (s : Core w) : Eff.Does (Moves p env s input) (perform p env input) s fun _ _ => True := by
  cases input with
  | saveContact contact =>
    refine ⟨moves_of_view ?_, trivial⟩
    simp only [perform, saveContact, updateContact, Eff.update_bind, Eff.readsOr_bind]
    cases p.loadPublicKey contact.publicKey <;> rfl
  | addChannel name waitAckInterval =>
    refine ⟨moves_of_view ?_, trivial⟩
    simp only [perform, addChannel, Eff.reads_bind]
    split <;> rfl
  | removeChannel name => exact .update (moves_of_view rfl) trivial
  | createDialog contact => exact createDialog_does rfl
  | closeDialog dialogId =>
    exact ⟨(closeDialog_does (.close dialogId) (.close dialogId rfl)).1, trivial⟩
  | abortDialog dialogId =>
    exact ⟨(abortDialog_does (.abort dialogId rfl) (.inl (ready_start dialogId)) le_rfl).1, trivial⟩
  | removeDialog dialogId => exact removeDialog_does rfl
  | setActiveDialog dialogId => exact .update (moves_of_view rfl) trivial
  | sendMessage text => exact sendMessage_does rfl
  | dispatch message channel => exact dispatch_does rfl
  | expire k => exact expireEntry_does rfl
  | restart => exact absurd rfl running

/-- The simulation: a step of an instance is a sequence of the protocol's moves, unless the program
is started again. -/
theorem exec_moves (p : Platform w) (env : Env w) {input : Input w} (running : input ≠ .restart)
    (s : Core w) : Moves p env s input s (exec p env input s) := by
  unfold exec
  split
  · obtain ⟨moves, -⟩ := perform_does p env running s
    rcases outcome : perform p env input s with ⟨(_ | _) | _, s'⟩ <;> rw [outcome] at moves <;>
      exact moves
  · exact .refl

/-- The rule for invariants of the protocol's view: a new start keeps them, and every move of a step
of the running program does, from a log that has grown since the step began to one that the step
extends. -/
theorem exec_invariant_within {I : View w → Prop} {env : Env w} {input : Input w} {s : Core w}
    (restarted : input = .restart → I s.view → I s.restart.view)
    (kept : s.alive = true → ∀ v v', (∃ before, v.log = s.log ++ before) →
      (∃ after, (exec p env input s).log = v'.log ++ after) →
        Move p env s input v v' → I v → I v') (start : I s.view) :
    I (exec p env input s).view := by
  by_cases again : input = .restart
  · subst again
    rw [exec_restart]
    exact restarted rfl start
  by_cases alive : s.alive = true
  swap
  · rw [exec_of_dead p env (not_or.mpr ⟨alive, again⟩)]
    exact start
  have reached : ∀ v, Relation.ReflTransGen (Move p env s input) s.view v →
      Relation.ReflTransGen (Move p env s input) v (exec p env input s).view → I v := by
    intro v before
    induction before with
    | refl => exact fun _ => start
    | @tail v v' before move ih =>
      intro after
      exact kept alive v v' (log_of_moves before) (log_of_moves after) move (ih (.head move after))
  exact reached _ (exec_moves p env again s) .refl

/-- Where nothing need be known of the log. -/
theorem exec_invariant {I : View w → Prop} {env : Env w} {input : Input w} {s : Core w}
    (restarted : input = .restart → I s.view → I s.restart.view)
    (kept : s.alive = true → ∀ v v', Move p env s input v v' → I v → I v') (start : I s.view) :
    I (exec p env input s).view :=
  exec_invariant_within restarted (fun alive v v' _ _ move inv => kept alive v v' move inv) start

/-- Where every control message that the step hands to a channel is transmitted. -/
theorem exec_invariant_of_sends {I : View w → Prop} {env : Env w} {input : Input w} {s : Core w}
    (restarted : input = .restart → I s.view → I s.restart.view)
    (sends : s.alive = true → ¬ SendFails s (exec p env input s).log)
    (kept : s.alive = true → ∀ v v', s.log.length ≤ v.log.length → ¬ SendFails s v'.log →
      Move p env s input v v' → I v → I v') (start : I s.view) :
    I (exec p env input s).view := by
  refine exec_invariant_within restarted (fun alive v v' before after move inv => ?_) start
  obtain ⟨earlier, log⟩ := before
  obtain ⟨later, final⟩ := after
  refine kept alive v v' (by simp [log]) (fun fails => ?_) move inv
  exact sends alive (final ▸ fails.append later)

end

end SecureDialogues
