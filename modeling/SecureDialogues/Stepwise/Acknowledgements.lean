import SecureDialogues.Protocol.Network
import SecureDialogues.Stepwise.OutgoingActions

/-!
# What is acknowledged

An instance transmits an ACK only when a message is given to its despatcher, and then under the
dialog identifier and the number of that message.
-/

namespace SecureDialogues

open Text Effect

section

variable {w : Nat}

/-- What the message is acknowledged under. -/
def DialogMessage.key (message : DialogMessage w) : NumberedKey w :=
  (message.mDialogId, message.mSequentialNumber)

/-- The log grows, by no transmission of an ACK. -/
def GrowsSilently (s s' : Core w) : Prop :=
  ∃ events, s'.log = s.log ++ events ∧ ∀ sent ∈ transmittedOf events, sent.mAction ≠ .ack

namespace GrowsSilently

theorem of_same {s s' : Core w} (same : s'.log = s.log) : GrowsSilently s s' :=
  ⟨[], by simp [same], by simp [transmittedOf]⟩

theorem trans {s s' s'' : Core w} (first : GrowsSilently s s') (second : GrowsSilently s' s'') :
    GrowsSilently s s'' := by
  obtain ⟨events, log, silent⟩ := first
  obtain ⟨later, log', silent'⟩ := second
  refine ⟨events ++ later, by rw [log', log, List.append_assoc], ?_⟩
  intro sent member
  rw [transmittedOf_append] at member
  rcases List.mem_append.mp member with old | new
  · exact silent sent old
  · exact silent' sent new

theorem record (s : Core w) {event : Event w}
    (other : ∀ channel message sent, event ≠ .handed channel message sent) :
    GrowsSilently s (s.record event) := by
  refine ⟨[event], rfl, ?_⟩
  intro sent member
  cases event with
  | handed channel message sent => exact absurd rfl (other channel message sent)
  | _ => cases member

theorem handed (s : Core w) (channel : Str) {message : DialogMessage w} (sent : Bool)
    (other : message.mAction ≠ .ack) :
    GrowsSilently s (s.record (.handed channel message sent)) := by
  refine ⟨[.handed channel message sent], rfl, ?_⟩
  intro transmitted member
  cases sent with
  | false => cases member
  | true =>
    rw [List.mem_singleton.mp member]
    exact other

theorem of_keyStep {s s' : Core w} {dialogId : Str} (step : KeyStep dialogId s s') :
    GrowsSilently s s' := by
  obtain ⟨events, log, silent⟩ := step.log
  exact ⟨events, log, by simp [silent]⟩

theorem of_leaves {α : Type} {m : M w α} (leaves : Eff.Leaves (·.log) m) (s : Core w) :
    GrowsSilently s (m s).2 :=
  of_same (leaves s)

end GrowsSilently

variable (p : Platform w) (env : Env w)

/-- What the operations keep to that do not acknowledge. -/
def silentRules : Rules where
  checked := False
  quiet := False
  lasting := False
  acknowledges := False

/-- One atomic step of an operation that does not acknowledge. -/
theorem growsSilently_exec {notes : Notes} {a : Atom w}
    (guard : (discipline silentRules).guard notes a) (s : Core w) :
    GrowsSilently s (a.exec p env s).2 := by
  cases a with
  | transmit channel message =>
    simp only [Atom.exec, channelSendMessage_eq]
    split
    · exact .handed s channel true guard.2
    · exact .handed s channel false guard.2
  | record event => exact .record s guard
  | notify severity text => exact .record s (by simp)
  | removeDialog dialogId =>
    apply GrowsSilently.record
    simp
  | addDialog dialog =>
    cases taken : s.mDialogStorage.has dialog.mDialogId with
    | true =>
      simp only [Atom.exec, addDialog_of_has p taken]
      exact .of_same rfl
    | false =>
      simp only [Atom.exec, addDialog_of_new p taken]
      apply GrowsSilently.record
      simp
  | generateAndExportKey dialogId address =>
    obtain ⟨r, s', outcome, step, -⟩ := generateAndExportKey_cases p env dialogId address s
    simp only [Atom.exec, outcome]
    exact .of_keyStep step
  | importKey dialogId content =>
    obtain ⟨r, s', outcome, step, -⟩ :=
      importKey_cases p (.make 0 .verifyKey content dialogId [] 0 []) s
    have imported : importKey p dialogId content s = (r, s') := outcome
    simp only [Atom.exec, imported]
    exact .of_keyStep step
  | addToActiveDialog message =>
    exact .of_leaves (addToActiveDialogWithWrapper_leaves p (fun _ _ => rfl) message) s
  | addDiscovered discovered =>
    refine .of_leaves ?_ s
    apply Eff.Leaves.bind (.reads _)
    intro stored
    split
    · exact .raise _
    · exact .update fun _ => rfl
  | wrapper | getContact | createSignature | checkVerificationString | encryptMessageBody
  | decryptMessageBody => exact .of_leaves (.readsOr _) s
  | _ => exact .of_same rfl

/-- A whole operation that does not acknowledge. -/
theorem growsSilently_run {m : Steps w Unit} (keeps : Keeps silentRules (fun _ => .unseen) m)
    (s : Core w) : GrowsSilently s (m.run (Atom.exec p env) s).2 :=
  run_of_keeps p env (R := GrowsSilently) (fun _ => .of_same rfl) GrowsSilently.trans
    (growsSilently_exec p env) keeps s

/-! ## Steps -/

/-- Every ACK that is transmitted between the states is under this key. -/
def AcksOnly (k : NumberedKey w) (s s' : Core w) : Prop :=
  ∃ events, s'.log = s.log ++ events ∧
    ∀ ack ∈ transmittedOf events, ack.mAction = .ack → ack.key = k

theorem GrowsSilently.acksOnly {s s' : Core w} (grows : GrowsSilently s s') (k : NumberedKey w) :
    AcksOnly k s s' := by
  obtain ⟨events, log, silent⟩ := grows
  exact ⟨events, log, fun ack member action => absurd action (silent ack member)⟩

theorem AcksOnly.trans_silent {k : NumberedKey w} {s s' s'' : Core w} (acks : AcksOnly k s s')
    (rest : GrowsSilently s' s'') : AcksOnly k s s'' := by
  obtain ⟨events, log, only⟩ := acks
  obtain ⟨later, log', silent⟩ := rest
  refine ⟨events ++ later, by rw [log', log, List.append_assoc], ?_⟩
  intro ack member action
  rw [transmittedOf_append] at member
  rcases List.mem_append.mp member with old | new
  · exact only ack old action
  · exact absurd action (silent ack new)

/-- `sendAck` acknowledges the message it is called for. -/
theorem sendAck_acksOnly (message : DialogMessage w) (channel : Str) (s : Core w) :
    AcksOnly message.key s (sendAck env message channel s).2 := by
  rw [sendAck, Eff.reads_bind]
  split
  · rcases sendAndForget_cases env (makeAck env.getTimestamp message) channel s with
      ⟨e, -, outcome⟩ | ⟨-, outcome⟩ | ⟨sign, ⟨-, outcome⟩ | ⟨e, -, outcome⟩⟩
    · rw [outcome]
      exact (GrowsSilently.of_same rfl).acksOnly _
    · rw [outcome]
      exact (GrowsSilently.of_same rfl).acksOnly _
    · rw [outcome]
      refine ⟨[.handed channel ((makeAck env.getTimestamp message).setSignature sign) true], rfl, ?_⟩
      intro ack member _
      rw [List.mem_singleton.mp member]
      rfl
    · rw [outcome]
      refine ⟨[.handed channel ((makeAck env.getTimestamp message).setSignature sign) false], rfl, ?_⟩
      intro ack member
      cases member
  · exact (GrowsSilently.of_same rfl).acksOnly _

/-- The despatcher acknowledges what it is given, before it looks at it. -/
theorem dispatchMessage_acksOnly (message : DialogMessage w) (channel : Str) (s : Core w) :
    AcksOnly message.key s (dispatchMessage p env message channel s).2 := by
  have acks := sendAck_acksOnly env message channel s
  rw [dispatchMessage, Eff.bind_apply]
  rcases outcome : sendAck env message channel s with ⟨e | u, s'⟩ <;> rw [outcome] at acks
  · exact acks
  · apply acks.trans_silent
    have grown := growsSilently_run p env (Steps.keeps_checkAndHandle p env message channel) s'
    simp only [Prog.run_bind, Prog.run_ite, Steps.run_isSignatureValid, Steps.run_despatchError,
      Steps.run_runHandlers] at grown
    exact grown

/-- Nothing but an incoming message is acknowledged. -/
theorem growsSilently_perform {input : Input w} (permitted : silentRules.Permit input)
    (running : input ≠ .restart) (s : Core w) : GrowsSilently s (perform p env input s).2 := by
  cases steps : Operation.steps p env (.ofInput input) with
  | some m =>
    exact perform_of_keeps p env (R := GrowsSilently) (fun _ => .of_same rfl) GrowsSilently.trans
      (growsSilently_exec p env) steps permitted s
  | none =>
    obtain ⟨contacts, remote, channels, outcome⟩ := perform_of_none p env steps running s
    rw [outcome]
    exact .of_same rfl

/-- What a step acknowledges is the message that it gives to the despatcher. -/
theorem acksOnly_next (s : Core w) (step : Step w) :
    GrowsSilently s (next p s step) ∨ ∃ message channelName,
      step.2 = .dispatch message channelName ∧ message.mAction ≠ .ack ∧ s.alive = true ∧
        AcksOnly message.key s (next p s step) := by
  obtain ⟨env, input⟩ := step
  by_cases restarts : input = .restart
  · left
    rw [next, restarts, exec_restart]
    apply GrowsSilently.record
    simp
  by_cases alive : s.alive = true
  swap
  · left
    rw [next, exec_of_dead p env (by simp [alive, restarts])]
    exact .of_same rfl
  obtain ⟨running, stepped⟩ := exec_of_alive p env input alive
  have quiet : silentRules.Permit input → GrowsSilently s (next p s (env, input)) := by
    intro permitted
    rw [next, stepped]
    exact growsSilently_perform p env permitted restarts s
  cases input with
  | dispatch message channelName =>
    by_cases ack : message.mAction = .ack
    · exact .inl (quiet ⟨fun _ => id, fun other => absurd ack other⟩)
    · right
      refine ⟨message, channelName, rfl, ack, alive, ?_⟩
      rw [next, stepped, AcksOnly, perform, dispatch_of_other ack]
      exact dispatchMessage_acksOnly p env message channelName s
  | sendMessage | removeDialog => exact .inl (quiet id)
  | expire k => exact .inl (quiet ⟨id, id⟩)
  | _ => exact .inl (quiet trivial)

end

end SecureDialogues
