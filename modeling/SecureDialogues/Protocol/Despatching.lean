import SecureDialogues.Protocol.Receiving

/-!
# When the despatcher returns

`MessageDespatcher::dispatch` and `MessageDespatcher::isSignatureValid` are `noexcept`: the program
ends with an ACK whose callback throws, with a message whose ACK cannot be sent, and with an
introduction that the error sink cannot keep. A message that is not taken up leaves things alone
exactly if it ends the program in none of these ways.
-/

namespace SecureDialogues

open Text Effect

section

variable {w : Nat}

/-- A character of the delimiter stands so far from the end of the content that the delimiter fits
behind it. -/
def HasName (content : Str) : Prop :=
  ∃ c ∈ content.take (content.length + 1 - DiscoverContactAgent.contentDelitimer.length),
    c ∈ DiscoverContactAgent.contentDelitimer

instance (content : Str) : Decidable (HasName content) :=
  inferInstanceAs (Decidable (∃ c ∈ content.take _, _))

variable (p : Platform w)

/-- No key is found for the sender. -/
def IsUnregistered (s : Core w) (message : DialogMessage w) : Prop :=
  ∃ e, isSignatureOk p s.mRemote message = .error e ∧ e.kind = .rangeError

/-- The error sink throws: an introduction for whose sender no key is found has no name, or comes
under an identifier that is taken. -/
structure SinkThrows (s : Core w) (message : DialogMessage w) : Prop where
  action : message.mAction = .contactDiscover
  unregistered : IsUnregistered p s message
  unkept : ¬ (HasName message.mContent ∧ message.mDialogId ∉ s.mDiscoveredStorage)

variable {p} {env : Env w} {message : DialogMessage w} {channel : Str}

/-! ## The error sink -/

/-- One of the first `n` characters occurs in the delimiter exactly if the first such character of
the whole text is among them. -/
theorem exists_mem_take_iff (delimiter content : Str) (n : Nat) :
    (∃ c ∈ content.take n, c ∈ delimiter) ↔
      (content.takeWhile fun c => c ∉ delimiter).length < n ∧
        (content.takeWhile fun c => c ∉ delimiter).length ≠ content.length := by
  induction content generalizing n with
  | nil => simp
  | cons c rest ih =>
    cases n with
    | zero => simp
    | succ n =>
      by_cases stop : c ∈ delimiter
      · simp [stop]
      · simpa [stop] using ih n

theorem getNameAndPublickKey_isOk (content : Str) :
    (∃ parts, DiscoverContactAgent.getNameAndPublickKey p content = .ok parts) ↔
      HasName content := by
  unfold DiscoverContactAgent.getNameAndPublickKey HasName
  rw [exists_mem_take_iff]
  generalize (content.takeWhile fun c => c ∉ DiscoverContactAgent.contentDelitimer) = name
  simp only
  have filled : 0 < DiscoverContactAgent.contentDelitimer.length := by decide
  split
  · rename_i whole
    simp [whole]
  · rename_i cut
    split
    · simp only [reduceCtorEq, exists_false, false_iff]
      omega
    · refine iff_of_true ⟨_, rfl⟩ ⟨?_, cut⟩
      omega

/-- The sink returns exactly if it need not keep an introduction, or finds a name and a new
identifier in it. -/
theorem despatchError_returns_iff (p : Platform w) (env : Env w) (error : DespatchError)
    (message : DialogMessage w) (channel : Str) (s : Core w) :
    (despatchError p env error message channel s).1 = .ok () ↔
      (error = .contactNotFound → message.mAction = .contactDiscover →
        HasName message.mContent ∧ message.mDialogId ∉ s.mDiscoveredStorage) := by
  cases error with
  | exceptionThrown | signatureBroken | messageExpired => exact iff_of_true rfl (by simp)
  | contactNotFound =>
    rw [imp_iff_right rfl, ← getNameAndPublickKey_isOk (p := p), despatchError]
    by_cases action : message.mAction = .contactDiscover
    swap
    · rw [if_neg action]
      exact iff_of_true rfl fun introduces => absurd introduces action
    rw [if_pos action, imp_iff_right action, Eff.readsOr_bind]
    cases DiscoverContactAgent.getNameAndPublickKey p message.mContent with
    | error e => simp
    | ok parts =>
      simp only [Eff.reads_bind]
      by_cases known : message.mDialogId ∈ s.mDiscoveredStorage
      · rw [if_pos known]
        simp [known, Eff.raise]
      · rw [if_neg known]
        simp [known]

/-! ## The signature check -/

/-- The sink hears of an exception of the check. -/
theorem isSignatureValid_of_error {s : Core w} {e : Exn}
    (thrown : isSignatureOk p s.mRemote message = .error e) :
    isSignatureValid p env message channel s = Eff.noexcept (do
      despatchError p env (if e.kind = .rangeError then .contactNotFound else .exceptionThrown)
        message channel
      pure false) s := by
  rw [isSignatureValid]
  refine Eff.noexcept_congr ?_
  rw [Eff.reads_bind, thrown]
  by_cases unknown : e.kind = .rangeError <;> simp only [unknown, if_true, if_false]

/-- After an exception of the check, the sink throws on introductions of unknown senders only. -/
theorem sinkThrows_iff_of_error {s : Core w} {e : Exn}
    (thrown : isSignatureOk p s.mRemote message = .error e) :
    SinkThrows p s message ↔ e.kind = .rangeError ∧ message.mAction = .contactDiscover ∧
      ¬ (HasName message.mContent ∧ message.mDialogId ∉ s.mDiscoveredStorage) := by
  constructor
  · rintro ⟨action, ⟨e', unregistered, kind⟩, unkept⟩
    obtain rfl : e = e' := by simpa using thrown.symm.trans unregistered
    exact ⟨kind, action, unkept⟩
  · rintro ⟨kind, action, unkept⟩
    exact ⟨action, ⟨e, thrown, kind⟩, unkept⟩

variable (p env channel) in
/-- A signature that is not found valid is reported as invalid, unless the sink throws. -/
theorem isSignatureValid_outcome {s : Core w}
    (invalid : isSignatureOk p s.mRemote message ≠ .ok true) :
    ¬ SinkThrows p s message ∧ (isSignatureValid p env message channel s).1 = .ok false ∨
      SinkThrows p s message ∧
        (isSignatureValid p env message channel s).1 = .error .terminated := by
  cases checked : isSignatureOk p s.mRemote message with
  | ok valid =>
    have broken : valid = false := by
      cases valid with
      | true => exact absurd checked invalid
      | false => rfl
    refine .inl ⟨?_, ?_⟩
    · rintro ⟨-, ⟨e, unregistered, -⟩, -⟩
      rw [checked] at unregistered
      cases unregistered
    · rw [isSignatureValid, Eff.noexcept, Eff.reads_bind, checked, broken]
      rfl
  | error e =>
    have sink := despatchError_returns_iff p env
      (if e.kind = .rangeError then .contactNotFound else .exceptionThrown) message channel s
    have throws := sinkThrows_iff_of_error checked
    have told : (if e.kind = .rangeError then DespatchError.contactNotFound else .exceptionThrown) =
        .contactNotFound ↔ e.kind = .rangeError := by
      by_cases unknown : e.kind = .rangeError <;> simp [unknown]
    rw [told] at sink
    rw [isSignatureValid_of_error checked, Eff.noexcept, Eff.bind_apply]
    generalize despatchError p env (if e.kind = .rangeError then _ else _) message channel s = out at *
    rcases out with ⟨fault | _, s'⟩
    · right
      refine ⟨throws.mpr ?_, by cases fault <;> rfl⟩
      have fails := mt sink.mpr (by simp)
      push Not at fails
      exact ⟨fails.1, fails.2.1, fun kept => kept.2 (fails.2.2 kept.1)⟩
    · left
      refine ⟨fun throw => ?_, rfl⟩
      obtain ⟨kind, action, unkept⟩ := throws.mp throw
      exact unkept (sink.mp rfl kind action)

/-! ## The despatcher -/

theorem SinkThrows.not_signed {s : Core w} (throws : SinkThrows p s message) :
    isSignatureOk p s.mRemote message ≠ .ok true := by
  obtain ⟨-, ⟨e, unregistered, -⟩, -⟩ := throws
  rw [unregistered]
  simp

theorem Noted.sinkThrows_iff {s s' : Core w} (noted : Noted s s') :
    SinkThrows p s' message ↔ SinkThrows p s message := by
  obtain ⟨notes, rfl, -⟩ := noted
  exact ⟨fun ⟨action, unregistered, unkept⟩ => ⟨action, unregistered, unkept⟩,
    fun ⟨action, unregistered, unkept⟩ => ⟨action, unregistered, unkept⟩⟩

/-- The despatcher returns from a message that is not delivered if it is acknowledged and the sink
does not throw. -/
theorem dispatchMessage_returns_iff {s : Core w}
    (refused : ¬ Delivered p env s message channel) :
    (dispatchMessage p env message channel s).1 = .ok () ↔
      Acknowledges env s message channel ∧ ¬ SinkThrows p s message := by
  obtain ⟨s', noted, ⟨acknowledges, acked⟩ | ⟨refuses, e, thrown⟩⟩ :=
    sendAck_cases env message channel s
  swap
  · rw [dispatchMessage, Eff.bind_error thrown]
    exact iff_of_false (by simp) fun both => refuses both.1
  rw [dispatchMessage, Eff.bind_ok acked, and_iff_right acknowledges, ← noted.sinkThrows_iff]
  by_cases valid : isSignatureOk p s'.mRemote message = .ok true
  · have expired := isExpired_of_not_delivered refused noted acknowledges valid
    rw [Eff.bind_ok (isSignatureValid_of_ok valid), if_neg (by simp), if_pos expired]
    exact iff_of_true rfl fun throws => throws.not_signed valid
  · rcases isSignatureValid_outcome p env channel valid with
      ⟨returns, outcome⟩ | ⟨throws, outcome⟩
    · rw [Eff.bind_ok (Prod.ext outcome rfl), if_pos rfl]
      exact iff_of_true rfl returns
    · rw [Eff.bind_error (Prod.ext outcome rfl)]
      exact iff_of_false (by simp) (not_not.mpr throws)

/-- The despatcher returns exactly if the work for a message other than an ACK does. -/
theorem dispatch_returns_iff (action : message.mAction ≠ .ack) (s : Core w) :
    (dispatch p env message channel s).1 = .ok () ↔
      (dispatchMessage p env message channel s).1 = .ok () := by
  rw [dispatch]
  simp only [if_neg action]
  rcases Eff.noexcept_outcome (dispatchMessage p env message channel) s with
    ⟨u, returned, outcome⟩ | ⟨⟨e, fault⟩, outcome⟩
  · rw [returned, outcome]
  · rw [fault, outcome]
    simp

variable (p env message channel) in
/-- A step of the running program ends it, or leaves what the despatcher leaves. -/
theorem exec_dispatch_cases {s : Core w} (alive : s.alive = true) :
    (dispatch p env message channel s).1 = .ok () ∧
        exec p env (.dispatch message channel) s = (dispatch p env message channel s).2 ∨
      (dispatch p env message channel s).1 = .error .terminated ∧
        (exec p env (.dispatch message channel) s).alive = false := by
  have outcome : (dispatch p env message channel s).1 = .ok () ∨
      (dispatch p env message channel s).1 = .error .terminated := by
    unfold dispatch
    exact (Eff.noexcept_outcome _ s).imp (fun ⟨_, _, returned⟩ => returned) And.right
  rw [exec, if_pos (.inl alive), perform]
  generalize dispatch p env message channel s = out at outcome ⊢
  obtain ⟨r, s'⟩ := out
  rcases outcome with returned | terminated
  · obtain rfl : r = .ok () := returned
    exact .inl ⟨rfl, rfl⟩
  · obtain rfl : r = .error .terminated := terminated
    exact .inr ⟨rfl, rfl⟩

/-- A step of the running program changes nothing exactly if the despatcher changes nothing and
returns. -/
theorem exec_dispatch_unaffected_iff {s : Core w} (alive : s.alive = true) :
    Unaffected s (exec p env (.dispatch message channel) s) ↔
      (dispatch p env message channel s).1 = .ok () ∧
        Unaffected s (dispatch p env message channel s).2 := by
  rcases exec_dispatch_cases p env message channel alive
    with ⟨returned, same⟩ | ⟨terminated, dead⟩
  · rw [same, and_iff_right returned]
  · refine iff_of_false (fun unaffected => ?_) fun both => ?_
    · have running := unaffected.alive
      rw [dead, alive] at running
      cases running
    · rw [terminated] at both
      cases both.1

/-! ## What leaves an instance alone -/

variable (p env channel) in
/-- An ACK of a pending delivery ends it or the program; any other ACK changes nothing. -/
theorem exec_ack_cases (action : message.mAction = .ack) {s : Core w} (alive : s.alive = true) :
    s.mRepo[(message.mDialogId, message.mSequentialNumber)]? = none ∧
        exec p env (.dispatch message channel) s = s ∨
      (∃ stored, s.mRepo[(message.mDialogId, message.mSequentialNumber)]? = some stored) ∧
        ((exec p env (.dispatch message channel) s).mRepo =
            s.mRepo.erase (message.mDialogId, message.mSequentialNumber) ∨
          (exec p env (.dispatch message channel) s).alive = false) := by
  have body : dispatch p env message channel s = Eff.noexcept (do
      let _ ← removeEntry p (message.mDialogId, message.mSequentialNumber)
      pure ()) s := by
    rw [dispatch]
    simp only [if_pos action]
  have left : (dispatch p env message channel s).2 = _ := dispatch_of_ack action s
  rcases removeEntry_cases p s message with ⟨idle, b, outcome⟩ | ⟨waiting, erased | ⟨e, outcome⟩⟩
  · refine .inl ⟨idle, ?_⟩
    rw [exec, if_pos (.inl alive), perform, body, Eff.noexcept, Eff.bind_ok outcome]
    rfl
  · refine .inr ⟨waiting, ?_⟩
    rcases exec_dispatch_cases p env message channel alive
      with ⟨-, same⟩ | ⟨-, dead⟩
    · exact .inl (by rw [same, left, erased])
    · exact .inr dead
  · refine .inr ⟨waiting, .inr ?_⟩
    rw [exec, if_pos (.inl alive), perform, body, Eff.noexcept, Eff.bind_error outcome]

/-- The message can be acknowledged, the error sink does not throw, and no handler takes the
message up. -/
structure IsIgnored (p : Platform w) (env : Env w) (s : Core w) (message : DialogMessage w)
    (channel : Str) : Prop where
  acknowledges : Acknowledges env s message channel
  kept : ¬ SinkThrows p s message
  ignored : ¬ (Delivered p env s message channel ∧ TakesHold p env s message channel)

/-- Which other messages change something or end the program. -/
theorem exec_other_unaffected_iff (action : message.mAction ≠ .ack) {s : Core w}
    (alive : s.alive = true) :
    Unaffected s (exec p env (.dispatch message channel) s) ↔
      IsIgnored p env s message channel := by
  rw [exec_dispatch_unaffected_iff alive, dispatch_returns_iff action, dispatch_of_other action]
  by_cases delivered : Delivered p env s message channel
  · have kept : ¬ SinkThrows p s message := fun throws => throws.not_signed delivered.signatureOk
    rw [dispatchMessage_of_delivered delivered]
    constructor
    · rintro ⟨-, unaffected⟩
      refine ⟨delivered.acknowledges, kept, fun ⟨_, takes⟩ => ?_⟩
      rcases runHandlers_takes delivered takes with ⟨before, after⟩ | changed
      · exact before (after.congr (congrArg DialogStorage.find unaffected.dialogs.symm))
      · exact changed (by rw [unaffected.messages])
    · rintro ⟨-, -, ignored⟩
      exact (runHandlers_unaffected fun takes => ignored ⟨delivered, takes⟩).symm
  · rw [dispatchMessage_returns_iff delivered]
    constructor
    · rintro ⟨⟨acknowledges, kept⟩, -⟩
      exact ⟨acknowledges, kept, fun both => delivered both.1⟩
    · rintro ⟨acknowledges, kept, -⟩
      exact ⟨⟨acknowledges, kept⟩, dispatchMessage_of_not_delivered delivered⟩

end

end SecureDialogues
