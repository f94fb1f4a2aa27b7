import SecureDialogues.Stepwise.Lasting
import SecureDialogues.Stepwise.Provenance

/-!
# What is sent while operations run at the same time

Over every interleaving of operations that remove no dialog, a dialog keeps its contact and its
session key, and the contacts stay as they are. Each message that is handed to a channel carries a
signature over its own text, its content is encrypted, and it goes to the contact of its dialog or
back to where a message has come from.
-/

namespace SecureDialogues

open Text Effect

section

variable {w : Nat} (p : Platform w) (routed : Prop) (turns : List (Threads.Turn w))

/-- The content is encrypted as the action of the message asks for. -/
def IsSealed (s : Core w) (message : DialogMessage w) : Prop :=
  match message.mAction with
  | .message =>
    ∃ text, Typed turns text ∧ IsEncrypted p s message.mDialogId text message.mContent
  | .keyVerification => ∃ text, IsEncrypted p s message.mDialogId text message.mContent
  | .verifyKey => IsExported p turns s message.mAdress message.mContent
  | _ => message.mContent = []

/-- The contacts are stored under their identifiers, and the deliveries that are pending go to the
contacts of their dialogs. -/
structure Core.IsRouted (s : Core w) : Prop where
  keyed : ∀ key (contact : Contact), s.mContactStorage[key]? = some contact → contact.id = key
  pending : PendingAddressed s

/-- A dialog is created with a stored contact, and only the checking thread calls `timeouted`. -/
def Threads.Turn.IsRegular (s : Core w) : Threads.Turn w → Prop
  | .start _ (.createDialog contact) => s.mContactStorage[contact.id]? = some contact
  | .start _ (.timeouted _) => False
  | _ => True

/-- The next step hands the message to the channel. -/
def Threads.Sends (threads : Threads w) (turn : Threads.Turn w) (channel : Str)
    (message : DialogMessage w) : Prop :=
  (threads.upcoming turn).map Prod.snd = some (.transmit channel message)

/-! ## The findings of a run -/

/-- The operations in progress with what each has found out. -/
abbrev Tracing (w : Nat) := Pool (Atom w) Atom.Result Exn (Findings w) (Env w) (Core w)

/-- What holds while operations that were started in the state `s` run. -/
def Lasts (s now : Core w) : Prop := Lasting s now ∧ (routed → PendingAddressed now)

namespace Tracing

/-- The operations run, and note what they find out about the dialogs of these contacts. -/
def next (contacts : Table Contact) (threads : Tracing w) (turn : Threads.Turn w) : Tracing w :=
  threads.step (provenance routed contacts turns) (Atom.exec p) (Concurrent.steps p) .none turn

/-- The findings of the operations are true. -/
def IsTrue (s : Core w) (threads : Tracing w) : Prop :=
  threads.IsSound (provenance routed s.mContactStorage turns) (IsWorld turns) (Lasts routed s)
    fun notes now => notes.AreTrue p routed turns now

end Tracing

variable {p routed turns}

theorem pact (s : Core w) : Prog.Pact (provenance routed s.mContactStorage turns) (Atom.exec p)
    (IsWorld turns) (Lasts routed s) fun notes now => notes.AreTrue p routed turns now where
  own env notes a now world lasts truth guard := by
    obtain ⟨lasting, pending⟩ := lasts
    rw [← lasting.contacts] at guard ⊢
    have lasting' := lasting_exec (p := p) env truth guard
    refine ⟨possible_exec env a truth, ⟨lasting.trans lasting', ?_⟩,
      noted_exec world truth guard pending⟩
    intro route
    exact pendingAddressed_exec env route truth guard (pending route)
  stable env notes a now world lasts truth guard others true' := by
    rw [← lasts.1.contacts] at guard
    exact (lasting_exec env truth guard).areTrue true'

/-- Each of the operations keeps the discipline. -/
theorem Concurrent.traces {s : Core w} (consistent : routed → s.IsRouted)
    {env : Env w} {operation : Concurrent w} (member : .start env operation ∈ turns)
    (regular : routed → Threads.Turn.IsRegular s (.start env operation)) :
    Traces routed s.mContactStorage turns Findings.none (operation.steps p env) := by
  have keyed := fun route => (consistent route).keyed
  cases operation with
  | createDialog contact => exact Steps.DialogActionHandler.traces_createDialog p env regular
  | closeDialog dialogId => exact Steps.DialogActionHandler.traces_closeDialog p env dialogId
  | abortDialog dialogId => exact Steps.DialogActionHandler.traces_abortDialog p env dialogId
  | sendMessage text =>
    exact Steps.MessageActionHandler.traces_sendMessage p env ⟨env, member⟩
  | dispatch message channelName =>
    exact Steps.traces_dispatch p env keyed ⟨env, _, by simp, member⟩
  | handleDialogAction message channel =>
    exact Steps.DialogActionHandler.traces_handle p env keyed ⟨env, _, by simp, member⟩
  | handleMessageAction message channel =>
    exact Steps.MessageActionHandler.traces_handle p env ⟨env, _, by simp, member⟩
  | expire k => exact Steps.traces_expireEntry p env k
  | removed handler => exact Steps.traces_removed p handler
  | timeouted handler =>
    apply Steps.traces_timeouted
    intro route
    exact absurd (regular route) id

theorem Findings.areTrue_none (s : Core w) : Findings.none.AreTrue p routed turns s where
  bound _ _ seen := by cases seen
  found _ member := by cases member

namespace Tracing

variable {s : Core w} {threads : Tracing w} (consistent : routed → s.IsRouted)
  (regular : routed → ∀ turn ∈ turns, turn.IsRegular s)

theorem isTrue_idle (pending : routed → PendingAddressed s) :
    IsTrue p routed turns s ⟨s, []⟩ := by
  refine ⟨⟨.refl s, pending⟩, ?_, ?_, ?_⟩ <;>
    · intro thread member
      cases member

/-- The findings of a run are true from any of its moments on. -/
theorem IsTrue.now (truth : threads.IsTrue p routed turns s) :
    threads.IsTrue p routed turns threads.state where
  invariant := ⟨.refl _, truth.invariant.2⟩
  worlds := truth.worlds
  notes := truth.notes
  disciplined := by
    rw [truth.invariant.1.contacts]
    exact truth.disciplined

include consistent regular

theorem IsTrue.after (truth : threads.IsTrue p routed turns s) {part : List (Threads.Turn w)}
    (started : part ⊆ turns) :
    (Run.after (next p routed turns s.mContactStorage) threads part).IsTrue p routed turns s := by
  apply Run.invariant_after (C := fun _ turn => turn ∈ turns) _ truth
  · exact Run.along_of_mem (fun turn member => started member) _
  · intro threads turn sound member
    apply Pool.IsSound.step (pact s) (fun now _ => Findings.areTrue_none now) _ sound
    rintro env operation rfl
    refine ⟨⟨operation, member⟩, ?_⟩
    exact Concurrent.traces consistent member fun route => regular route _ member

end Tracing

variable (p routed turns) in
/-- The findings do not change the run. -/
theorem tracing_eq (s : Core w) (before : List (Threads.Turn w)) :
    (Run.after (Tracing.next p routed turns s.mContactStorage) ⟨s, []⟩ before).state =
        (Run.after (Threads.next p) (.idle s) before).state ∧
      ∀ turn : Threads.Turn w,
        ((Run.after (Tracing.next p routed turns s.mContactStorage) ⟨s, []⟩ before).upcoming
          turn).map Prod.snd =
        ((Run.after (Threads.next p) (.idle s) before).upcoming turn).map Prod.snd := by
  have same : Pool.forget (⟨s, []⟩ : Tracing w) = Pool.forget (Threads.idle s) := rfl
  exact Pool.after_eq_of_forget _ _ _ _ _ _ same before

/-- What the findings say about a message that is handed to a channel. -/
theorem Findings.AreTrue.isSealed {notes : Findings w} {s : Core w}
    (truth : notes.AreTrue p routed turns s) {message : DialogMessage w}
    (seals : notes.Seals message.mAction message.mDialogId message.mAdress message.mContent) :
    IsSealed p turns s message := by
  unfold IsSealed
  cases action : message.mAction <;> rw [action] at seals
  case message | keyVerification | verifyKey => exact truth.found _ seals
  all_goals exact seals

variable (routed) in
/-- A message is handed to a channel: its operation was allowed to send it. -/
theorem exists_findings {s : Core w} (consistent : routed → s.IsRouted)
    (regular : routed → ∀ turn ∈ turns, turn.IsRegular s)
    {before rest : List (Threads.Turn w)} {turn : Threads.Turn w}
    (split : turns = before ++ turn :: rest) {channel : Str} {message : DialogMessage w}
    (sends : (Run.after (Threads.next p) (.idle s) before).Sends turn channel message) :
    ∃ notes : Findings w,
      notes.AreTrue p routed turns (Run.after (Threads.next p) (.idle s) before).state ∧
      notes.MayTransmit routed (Run.after (Threads.next p) (.idle s) before).state.mContactStorage
        turns channel message := by
  have part : before ⊆ turns := by
    rw [split]
    exact List.subset_append_left _ _
  have truth := Tracing.IsTrue.after (p := p) consistent regular
    (Tracing.isTrue_idle fun route => (consistent route).pending) part
  obtain ⟨same, upcoming⟩ := tracing_eq p routed turns s before
  rw [Threads.Sends, ← upcoming turn] at sends
  obtain ⟨⟨notes, a⟩, coming, rfl⟩ := Option.map_eq_some_iff.mp sends
  obtain ⟨guard, noted⟩ := truth.upcoming coming
  rw [← same, truth.invariant.1.contacts]
  exact ⟨notes, noted, guard⟩

end

/-! ## Every interleaving -/

section

variable {w : Nat} (p : Platform w) (s : Core w) (turns : List (Threads.Turn w))

/-- Each message that is handed to a channel was signed with its own text, as it is, and its content
is encrypted under the session key or the public key that it needs. -/
theorem sent_messages_sealed : Run.Along (Threads.next p)
    (fun threads turn => ∀ channel message, threads.Sends turn channel message →
      IsSignedWith turns message (signField message.mAction) ∧
        IsSealed p turns threads.state message) (.idle s) turns := by
  apply Run.along_of_before
  intro before turn rest split channel message sends
  obtain ⟨notes, truth, signed, seals, -⟩ :=
    exists_findings False False.elim False.elim split sends
  exact ⟨truth.found _ signed, truth.isSealed seals⟩

/-- Each message that is handed to a channel goes to the contact of its dialog, or is an ACK or an
ABORT that answers an incoming message of its dialog. -/
theorem sent_messages_routed (consistent : s.IsRouted) (regular : ∀ turn ∈ turns, turn.IsRegular s) :
    Run.Along (Threads.next p)
      (fun threads turn => ∀ channel message, threads.Sends turn channel message →
        threads.state.Reaches message.mDialogId message.mAdress channel ∨
          Answers turns message channel ∨
          Reports turns message channel ∧
            ∃ mChannel, threads.state.Reaches message.mDialogId message.mAdress mChannel)
      (.idle s) turns := by
  apply Run.along_of_before
  intro before turn rest split channel message sends
  obtain ⟨notes, truth, -, -, directed⟩ :=
    exists_findings True (fun _ => consistent) (fun _ => regular) split sends
  rcases directed trivial with reaches | answers | ⟨reports, mChannel, reaches⟩
  · exact .inl (truth.reaches trivial reaches)
  · exact .inr (.inl answers)
  · exact .inr (.inr ⟨reports, mChannel, truth.reaches trivial reaches⟩)

end

namespace Sample

/-- The user asks the peer for a dialog: everything up to the hand-over of the request. -/
def requesting : List (Threads.Turn 64) :=
  .start env (.createDialog peer) :: List.replicate 7 (.advance 0)

theorem isRouted_connect : (run connect).IsRouted where
  keyed key contact stored := by
    have contacts : (run connect).mContactStorage = (∅ : Table Contact).insert peer.id peer := rfl
    rw [contacts, getElem?_insert] at stored
    split at stored
    · rename_i same
      cases stored
      exact same
    · cases stored
  pending k stored found := by
    have none : (run connect).mRepo[k]? = .none := rfl
    rw [none] at found
    cases found

end Sample

/-- The request of a dialog is the message that is sent, and it goes to the contact. -/
theorem sample_messages_routed :
    (∃ message, Threads.Sends
      (Run.after (Threads.next Sample.platform) (.idle (Sample.run Sample.connect)) Sample.requesting)
      (.advance 0) Sample.channel message) ∧
    Run.Along (Threads.next Sample.platform)
      (fun threads turn => ∀ channel message, threads.Sends turn channel message →
        threads.state.Reaches message.mDialogId message.mAdress channel ∨
          Answers (Sample.requesting ++ [.advance 0]) message channel ∨
          Reports (Sample.requesting ++ [.advance 0]) message channel ∧
            ∃ mChannel, threads.state.Reaches message.mDialogId message.mAdress mChannel)
      (.idle (Sample.run Sample.connect)) (Sample.requesting ++ [.advance 0]) := by
  refine ⟨⟨_, rfl⟩, sent_messages_routed _ _ _ Sample.isRouted_connect ?_⟩
  intro turn member
  rcases List.mem_append.mp member with earlier | last
  · rcases List.mem_cons.mp earlier with rfl | advance
    · rfl
    · rw [List.eq_of_mem_replicate advance]
      trivial
  · rw [List.mem_singleton.mp last]
    trivial

section

variable {w : Nat} (p : Platform w) (s : Core w)

/-- Between any two moments of the run every dialog stays with its contact, and every session key
stays as it is. -/
theorem dialogs_last (before later : List (Threads.Turn w)) :
    Lasting (Run.after (Threads.next p) (.idle s) before).state
      (Run.after (Threads.next p) (.idle s) (before ++ later)).state := by
  have whole : before ++ later ⊆ before ++ later := List.Subset.refl _
  have idle : Tracing.IsTrue p False (before ++ later) s ⟨s, []⟩ := Tracing.isTrue_idle False.elim
  have truth := idle.after False.elim False.elim (List.append_subset.mp whole).1
  have ends := truth.now.after False.elim False.elim (List.append_subset.mp whole).2
  rw [truth.invariant.1.contacts, ← Run.after_append] at ends
  have lasting := ends.invariant.1
  rw [(tracing_eq p False _ s _).1, (tracing_eq p False _ s _).1] at lasting
  exact lasting

end

end SecureDialogues
