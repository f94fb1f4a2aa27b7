import SecureDialogues.Lib.Run
import SecureDialogues.Lib.Text

/-!
# Polling an IMAP folder

`ImapReciever` (`plugins/smtp-plugin/email-agent/imapreciever.cpp`) remembers the largest UID of its
last look at the folder, fetches the messages from this UID on, and leaves out the first of them.
The folder of the mail library has its messages in the order of their UIDs.
-/

namespace SecureDialogues

open Text

/-- A message in a folder. -/
structure MailMessage where
  uid : Nat
  subject : Str
  email : Str
  body : Str
  deriving DecidableEq, Repr

/-- A folder, with the largest UID that it has given to a message. -/
structure MailFolder where
  messages : List MailMessage
  lastUid : Nat
  uidValidity : Nat
  ordered : messages.Pairwise (·.uid < ·.uid)
  positive : ∀ message ∈ messages, 0 < message.uid
  bounded : ∀ message ∈ messages, message.uid ≤ lastUid

namespace MailFolder

/-- A new message gets a larger UID than all messages before. -/
def arrive (folder : MailFolder) (gap : Nat) (subject email body : Str) : MailFolder where
  messages := folder.messages ++ [⟨folder.lastUid + gap + 1, subject, email, body⟩]
  lastUid := folder.lastUid + gap + 1
  uidValidity := folder.uidValidity
  ordered := by
    rw [List.pairwise_append]
    refine ⟨folder.ordered, List.pairwise_singleton _ _, ?_⟩
    intro message member new here
    have bound := folder.bounded message member
    rw [List.mem_singleton.mp here]
    show message.uid < folder.lastUid + gap + 1
    omega
  positive := by
    rw [List.forall_mem_append, List.forall_mem_singleton]
    exact ⟨folder.positive, Nat.succ_pos _⟩
  bounded := by
    rw [List.forall_mem_append, List.forall_mem_singleton]
    refine ⟨?_, le_rfl⟩
    intro message member
    have bound := folder.bounded message member
    omega

def expunge (folder : MailFolder) (uid : Nat) : MailFolder where
  messages := folder.messages.filter (·.uid ≠ uid)
  lastUid := folder.lastUid
  uidValidity := folder.uidValidity
  ordered := folder.ordered.filter _
  positive message member := folder.positive message (List.mem_of_mem_filter member)
  bounded message member := folder.bounded message (List.mem_of_mem_filter member)

/-- `messageSet::byUID`. -/
def byUID (folder : MailFolder) (first last : Nat) : List MailMessage :=
  folder.messages.filter fun message => first ≤ message.uid && message.uid ≤ last

/-- The messages with larger UIDs. -/
def above (folder : MailFolder) (uid : Nat) : List MailMessage :=
  folder.messages.filter fun message => uid < message.uid

end MailFolder

/-- `ImapReciever` (`imapreciever.h:24-31`). -/
structure ImapReciever where
  mSubject : Str
  mLastMessage : Nat
  mUidValidity : Nat
  deriving DecidableEq, Repr

namespace ImapReciever

/-- `getLastMessageUid` (`imapreciever.cpp:18-27`). -/
def getLastMessageUid (folder : MailFolder) : Nat :=
  match folder.messages.getLast? with
  | some message => message.uid
  | none => 1

/-- `ImapReciever::connect` (`imapreciever.cpp:56-77`). -/
def connect (mSubject : Str) (folder : MailFolder) : ImapReciever where
  mSubject
  mLastMessage := getLastMessageUid folder
  mUidValidity := folder.uidValidity

/-- What is returned of a message. -/
def entry (message : MailMessage) : Str × Str := (message.email, message.body)

/-- `ImapReciever::recievedMessages` (`imapreciever.cpp:79-125`), if the iterator does not pass the
end of the fetched list. -/
def recievedMessages (reciever : ImapReciever) (folder : MailFolder) :
    Option (List (Str × Str) × ImapReciever) :=
  let nextLastUid := getLastMessageUid folder
  if nextLastUid = reciever.mLastMessage then some ([], reciever)
  else
    match folder.byUID reciever.mLastMessage nextLastUid with
    | [] => none
    | _ :: messages => some (
        (messages.filter (·.subject = reciever.mSubject)).map entry,
        { reciever with mLastMessage := nextLastUid, mUidValidity := folder.uidValidity })

/-! ## The folder and its reader -/

/-- The folder and its reader, with what has happened so far. -/
structure State where
  folder : MailFolder
  reciever : ImapReciever
  /-- The largest UID that was present at a poll or at connect. -/
  seen : Nat
  /-- The results of the polls. -/
  results : List (Str × Str)
  /-- The messages with the expected subject that a poll found above all UIDs seen before. -/
  due : List MailMessage
  /-- The iterator has passed the end of a list. -/
  overrun : Bool

/-- The largest UID of the folder is seen. -/
def see (folder : MailFolder) (seen : Nat) : Nat :=
  if folder.messages = [] then seen else max seen (getLastMessageUid folder)

/-- The reader connects to a folder. -/
def State.initial (mSubject : Str) (folder : MailFolder) : State where
  folder
  reciever := connect mSubject folder
  seen := see folder 0
  results := []
  due := []
  overrun := false

/-- A message arrives, a message is expunged, or the folder is polled. -/
inductive Move where
  | arrive (gap : Nat) (subject email body : Str)
  | expunge (uid : Nat)
  | poll

/-- The messages that a poll should return. -/
def State.unread (s : State) : List MailMessage :=
  (s.folder.above s.seen).filter (·.subject = s.reciever.mSubject)

def next (s : State) : Move → State
  | .arrive gap subject email body => { s with folder := s.folder.arrive gap subject email body }
  | .expunge uid => { s with folder := s.folder.expunge uid }
  | .poll =>
    match s.reciever.recievedMessages s.folder with
    | some (messages, reciever) => { s with
        reciever
        seen := see s.folder s.seen
        results := s.results ++ messages
        due := s.due ++ s.unread }
    | none => { s with overrun := true }

/-- The polls have returned each message that is due once, in the order of the UIDs, and no other,
and no iterator has passed the end of its list. -/
structure WellRead (s : State) : Prop where
  inside : s.overrun = false
  results : s.results = s.due.map entry
  ordered : s.due.Pairwise (·.uid < ·.uid)

/-- At a poll the message that was the last one before is still there; or the folder is empty and
the reader remembers the UID of an empty folder; or there are new messages, and the first of them
has another subject. -/
def MeetsLast (s : State) : Move → Prop
  | .poll =>
    (∃ message ∈ s.folder.messages, message.uid = s.reciever.mLastMessage ∧
      message.uid ≤ s.seen) ∨
    (s.folder.messages = [] ∧ s.reciever.mLastMessage = 1) ∨
    ∃ first, (s.folder.above s.seen).head? = some first ∧ first.subject ≠ s.reciever.mSubject
  | _ => True

/-! ## The last UID -/

section

variable (folder : MailFolder)

theorem getLastMessageUid_of_empty (empty : folder.messages = []) :
    getLastMessageUid folder = 1 := by
  rw [getLastMessageUid, empty]
  rfl

theorem exists_getLastMessageUid (filled : folder.messages ≠ []) :
    ∃ message ∈ folder.messages, message.uid = getLastMessageUid folder := by
  obtain ⟨last, found⟩ := Option.ne_none_iff_exists'.mp (mt List.getLast?_eq_none_iff.mp filled)
  refine ⟨last, List.mem_of_getLast? found, ?_⟩
  rw [getLastMessageUid, found]

theorem le_getLastMessageUid {message : MailMessage} (member : message ∈ folder.messages) :
    message.uid ≤ getLastMessageUid folder := by
  have filled : folder.messages ≠ [] := List.ne_nil_of_mem member
  obtain ⟨last, found⟩ := Option.ne_none_iff_exists'.mp (mt List.getLast?_eq_none_iff.mp filled)
  obtain ⟨before, split⟩ := List.getLast?_eq_some_iff.mp found
  have ordered := folder.ordered
  rw [split] at ordered member
  rw [getLastMessageUid, found]
  rcases List.mem_append.mp member with earlier | here
  · exact ((List.pairwise_append.mp ordered).2.2 message earlier last List.mem_cons_self).le
  · rw [List.mem_singleton.mp here]

theorem getLastMessageUid_le (filled : folder.messages ≠ []) :
    getLastMessageUid folder ≤ folder.lastUid := by
  obtain ⟨last, member, same⟩ := exists_getLastMessageUid folder filled
  rw [← same]
  exact folder.bounded last member

theorem byUID_getLastMessageUid (first : Nat) :
    folder.byUID first (getLastMessageUid folder) =
      folder.messages.filter fun message => first ≤ message.uid := by
  apply List.filter_congr
  intro message member
  simp [le_getLastMessageUid folder member]

end

/-! ## The invariant -/

/-- The remembered UID parts the messages that were seen from the others. -/
structure Invariant (s : State) : Prop where
  remembered : s.reciever.mLastMessage ≤ max s.seen 1
  unseen : ∀ message ∈ s.folder.messages, s.reciever.mLastMessage < message.uid →
    s.seen < message.uid
  bounded : s.seen ≤ s.folder.lastUid
  due : ∀ message ∈ s.due, message.uid ≤ s.seen

theorem see_spec (folder : MailFolder) (seen : Nat) :
    seen ≤ see folder seen ∧ getLastMessageUid folder ≤ max (see folder seen) 1 ∧
      (seen ≤ folder.lastUid → see folder seen ≤ folder.lastUid) ∧
      ∀ message ∈ folder.messages, message.uid ≤ see folder seen := by
  unfold see
  split
  · rename_i empty
    rw [getLastMessageUid_of_empty folder empty, empty]
    exact ⟨le_rfl, le_max_right _ _, id, by simp⟩
  · rename_i filled
    refine ⟨le_max_left _ _, by omega, ?_, ?_⟩
    · intro bounded
      exact max_le bounded (getLastMessageUid_le folder filled)
    · intro message member
      exact le_max_of_le_right (le_getLastMessageUid folder member)

theorem Invariant.initial (mSubject : Str) (folder : MailFolder) :
    Invariant (State.initial mSubject folder) := by
  obtain ⟨-, remembered, bounded, -⟩ := see_spec folder 0
  refine ⟨remembered, ?_, bounded (Nat.zero_le _), by simp [State.initial]⟩
  intro message member larger
  exact absurd (le_getLastMessageUid folder member) (by simpa [State.initial, connect] using larger)

variable {s : State}

theorem recievedMessages_mLastMessage {reciever reciever' : ImapReciever} {folder : MailFolder}
    {messages : List (Str × Str)}
    (returned : reciever.recievedMessages folder = some (messages, reciever')) :
    reciever'.mLastMessage = getLastMessageUid folder := by
  unfold recievedMessages at returned
  dsimp only at returned
  split at returned
  · rename_i same
    cases returned
    exact same.symm
  split at returned
  · cases returned
  · cases returned
    rfl

theorem Invariant.next (invariant : Invariant s) (move : Move) : Invariant (next s move) := by
  cases move with
  | arrive gap subject email body =>
    refine ⟨invariant.remembered, ?_, ?_, invariant.due⟩
    · intro message member larger
      rcases List.mem_append.mp member with old | new
      · exact invariant.unseen message old larger
      · have bound := invariant.bounded
        rw [List.mem_singleton.mp new]
        show s.seen < s.folder.lastUid + gap + 1
        omega
    · exact invariant.bounded.trans (Nat.le_add_right _ (gap + 1))
  | expunge uid =>
    refine ⟨invariant.remembered, ?_, invariant.bounded, invariant.due⟩
    intro message member
    exact invariant.unseen message (List.mem_of_mem_filter member)
  | poll =>
    unfold ImapReciever.next
    dsimp only
    cases returned : s.reciever.recievedMessages s.folder with
    | none => exact ⟨invariant.remembered, invariant.unseen, invariant.bounded, invariant.due⟩
    | some outcome =>
      obtain ⟨messages, reciever⟩ := outcome
      obtain ⟨later, remembered, bounded, present⟩ := see_spec s.folder s.seen
      have same := recievedMessages_mLastMessage returned
      refine ⟨same ▸ remembered, ?_, bounded invariant.bounded, ?_⟩
      · intro message member larger
        rw [same] at larger
        exact absurd (le_getLastMessageUid s.folder member) (not_le.mpr larger)
      · intro message member
        rcases List.mem_append.mp member with old | new
        · exact (invariant.due message old).trans later
        · exact present message (List.mem_of_mem_filter (List.mem_of_mem_filter new))

/-- What becomes due comes after what was due before. -/
theorem Invariant.due_ordered (invariant : Invariant s) (ordered : s.due.Pairwise (·.uid < ·.uid)) :
    (s.due ++ s.unread).Pairwise (·.uid < ·.uid) := by
  rw [List.pairwise_append]
  refine ⟨ordered, (s.folder.ordered.filter _).filter _, ?_⟩
  intro old wasDue new unread
  have above := (List.mem_filter.mp (List.mem_of_mem_filter unread)).2
  exact (invariant.due old wasDue).trans_lt (by simpa using above)

/-! ## Polls -/

/-- A poll that ends is right if its result is. -/
theorem wellRead_poll_iff (invariant : Invariant s) (well : WellRead s)
    {messages : List (Str × Str)} {reciever : ImapReciever}
    (returned : s.reciever.recievedMessages s.folder = some (messages, reciever)) :
    WellRead (next s .poll) ↔ messages = s.unread.map entry := by
  rw [next, returned]
  dsimp only
  constructor
  · intro after
    have results := after.results
    dsimp only at results
    rw [List.map_append, well.results] at results
    exact List.append_cancel_left results
  · rintro rfl
    refine ⟨well.inside, ?_, invariant.due_ordered well.ordered⟩
    dsimp only
    rw [List.map_append, well.results]

theorem mem_above {folder : MailFolder} {uid : Nat} {message : MailMessage} :
    message ∈ folder.above uid ↔ message ∈ folder.messages ∧ uid < message.uid := by
  simp [MailFolder.above]

/-- No message that was not seen has a UID below the remembered one. -/
theorem Invariant.le_of_above (invariant : Invariant s) {message : MailMessage}
    (above : message ∈ s.folder.above s.seen) : s.reciever.mLastMessage ≤ message.uid := by
  obtain ⟨member, larger⟩ := mem_above.mp above
  have remembered := invariant.remembered
  have positive := s.folder.positive message member
  omega

/-- A poll that finds the remembered UID as the last one. -/
theorem unread_eq_nil_iff (invariant : Invariant s)
    (same : getLastMessageUid s.folder = s.reciever.mLastMessage) :
    s.unread = [] ↔ MeetsLast s .poll := by
  constructor
  · intro none
    by_cases empty : s.folder.messages = []
    · exact .inr (.inl ⟨empty, same ▸ getLastMessageUid_of_empty s.folder empty⟩)
    obtain ⟨last, member, isLast⟩ := exists_getLastMessageUid s.folder empty
    by_cases wasSeen : last.uid ≤ s.seen
    · exact .inl ⟨last, member, isLast.trans same, wasSeen⟩
    have above : last ∈ s.folder.above s.seen := mem_above.mpr ⟨member, not_le.mp wasSeen⟩
    obtain ⟨first, rest, split⟩ := List.exists_cons_of_ne_nil (List.ne_nil_of_mem above)
    refine .inr (.inr ⟨first, by rw [split]; rfl, ?_⟩)
    intro expected
    have unread : first ∈ s.unread := by
      rw [State.unread, split, List.filter_cons_of_pos (by simpa using expected)]
      exact List.mem_cons_self
    rw [none] at unread
    cases unread
  · intro meets
    have bound : ∀ message ∈ s.folder.above s.seen, message.uid = s.reciever.mLastMessage := by
      intro message above
      have most := le_getLastMessageUid s.folder (mem_above.mp above).1
      have least := invariant.le_of_above above
      omega
    rcases meets with ⟨last, -, isLast, wasSeen⟩ | ⟨empty, -⟩ | ⟨first, found, other⟩
    · have none : s.folder.above s.seen = [] := by
        rw [List.eq_nil_iff_forall_not_mem]
        intro message above
        have larger := (mem_above.mp above).2
        have uid := bound message above
        omega
      rw [State.unread, none]
      rfl
    · rw [State.unread, MailFolder.above, empty]
      rfl
    · -- two messages with the remembered UID would not be in order
      obtain ⟨rest, split⟩ := List.head?_eq_some_iff.mp found
      have ordered : (s.folder.above s.seen).Pairwise (·.uid < ·.uid) := s.folder.ordered.filter _
      have alone : rest = [] := by
        rw [List.eq_nil_iff_forall_not_mem]
        intro second member
        rw [split] at ordered bound
        have after := (List.pairwise_cons.mp ordered).1 second member
        rw [bound first List.mem_cons_self, bound second (List.mem_cons_of_mem _ member)] at after
        exact lt_irrefl _ after
      rw [State.unread, split, alone, List.filter_cons_of_neg (by simpa using other)]
      rfl

section

variable (invariant : Invariant s) {first : MailMessage} {rest : List MailMessage}
  (fetched : (s.folder.messages.filter fun message =>
    s.reciever.mLastMessage ≤ message.uid) = first :: rest)

include invariant fetched

/-- Where the message that was the last one is still there, it is the first one that is fetched, and
the others are new. -/
theorem above_eq_of_met {message : MailMessage} (member : message ∈ s.folder.messages)
    (isLast : message.uid = s.reciever.mLastMessage) (wasSeen : message.uid ≤ s.seen) :
    s.folder.above s.seen = rest := by
  have ordered : (first :: rest).Pairwise (·.uid < ·.uid) := fetched ▸ s.folder.ordered.filter _
  rw [List.pairwise_cons] at ordered
  have least : s.reciever.mLastMessage ≤ first.uid := by
    have member : first ∈ first :: rest := List.mem_cons_self
    rw [← fetched] at member
    simpa using (List.mem_filter.mp member).2
  have isFirst : first.uid = s.reciever.mLastMessage := by
    have inside : message ∈ first :: rest := by
      rw [← fetched]
      exact List.mem_filter.mpr ⟨member, by simp [isLast]⟩
    rcases List.mem_cons.mp inside with here | later
    · rw [← here, isLast]
    · have after := ordered.1 message later
      omega
  have unseen : s.folder.above s.seen = (first :: rest).filter fun message =>
      s.reciever.mLastMessage < message.uid := by
    rw [← fetched, List.filter_filter]
    apply List.filter_congr
    intro other present
    have larger := invariant.unseen other present
    simp only [decide_eq_decide, ← Bool.decide_and]
    omega
  rw [unseen, List.filter_cons_of_neg (by simp [isFirst]), List.filter_eq_self]
  intro other later
  have after := ordered.1 other later
  simp only [decide_eq_true_eq]
  omega

/-- Where it is not, all that is fetched is new. -/
theorem above_eq_of_not_met
    (met : ¬ ∃ message ∈ s.folder.messages, message.uid = s.reciever.mLastMessage ∧
      message.uid ≤ s.seen) : s.folder.above s.seen = first :: rest := by
  rw [← fetched]
  apply List.filter_congr
  intro other present
  have larger := invariant.unseen other present
  have remembered := invariant.remembered
  have positive := s.folder.positive other present
  have notMet : other.uid = s.reciever.mLastMessage → ¬ other.uid ≤ s.seen :=
    fun isLast wasSeen => met ⟨other, present, isLast, wasSeen⟩
  simp only [decide_eq_decide]
  omega

/-- A poll that fetches messages. -/
theorem fetched_eq_iff :
    (rest.filter (·.subject = s.reciever.mSubject)).map entry = s.unread.map entry ↔
      MeetsLast s .poll := by
  by_cases met : ∃ message ∈ s.folder.messages, message.uid = s.reciever.mLastMessage ∧
      message.uid ≤ s.seen
  · refine iff_of_true ?_ (.inl met)
    obtain ⟨message, member, isLast, wasSeen⟩ := met
    rw [State.unread, above_eq_of_met invariant fetched member isLast wasSeen]
  · have unseen := above_eq_of_not_met invariant fetched met
    have filled : s.folder.messages ≠ [] := by
      intro empty
      rw [empty] at fetched
      cases fetched
    have meets : MeetsLast s .poll ↔ first.subject ≠ s.reciever.mSubject := by
      simp [MeetsLast, met, filled, unseen]
    rw [meets, State.unread, unseen]
    by_cases expected : first.subject = s.reciever.mSubject
    · rw [List.filter_cons_of_pos (by simpa using expected)]
      refine iff_of_false ?_ (by simpa using expected)
      intro same
      simpa using congrArg List.length same
    · rw [List.filter_cons_of_neg (by simpa using expected)]
      exact iff_of_true rfl expected

end

theorem next_wellRead_iff (invariant : Invariant s) (well : WellRead s) (move : Move) :
    WellRead (next s move) ↔ MeetsLast s move := by
  cases move with
  | arrive gap subject email body =>
    exact iff_of_true ⟨well.inside, well.results, well.ordered⟩ trivial
  | expunge uid => exact iff_of_true ⟨well.inside, well.results, well.ordered⟩ trivial
  | poll =>
    by_cases same : getLastMessageUid s.folder = s.reciever.mLastMessage
    · have returned : s.reciever.recievedMessages s.folder = some ([], s.reciever) := if_pos same
      rw [wellRead_poll_iff invariant well returned, ← unread_eq_nil_iff invariant same, eq_comm,
        List.map_eq_nil_iff]
    cases fetched : s.folder.messages.filter fun message =>
        s.reciever.mLastMessage ≤ message.uid with
    | nil =>
      have returned : s.reciever.recievedMessages s.folder = none := by
        rw [recievedMessages, if_neg same, byUID_getLastMessageUid, fetched]
      have none : ∀ message ∈ s.folder.messages, message.uid < s.reciever.mLastMessage := by
        simpa using fetched
      refine iff_of_false ?_ ?_
      · intro after
        have inside := after.inside
        rw [next, returned] at inside
        cases inside
      · rintro (⟨message, member, isLast, -⟩ | ⟨empty, isOne⟩ | ⟨first, found, -⟩)
        · exact (none message member).ne isLast
        · exact same ((getLastMessageUid_of_empty s.folder empty).trans isOne.symm)
        · have above := List.mem_of_mem_head? found
          exact (none first (mem_above.mp above).1).not_ge (invariant.le_of_above above)
    | cons first rest =>
      have returned : s.reciever.recievedMessages s.folder = some (
          (rest.filter (·.subject = s.reciever.mSubject)).map entry,
          { s.reciever with
            mLastMessage := getLastMessageUid s.folder
            mUidValidity := s.folder.uidValidity }) := by
        rw [recievedMessages, if_neg same, byUID_getLastMessageUid, fetched]
      rw [wellRead_poll_iff invariant well returned, fetched_eq_iff invariant fetched]

/-- From every folder on, the polls of a run return each message that is due once, in the order of
the UIDs, and no other, exactly if each poll meets the last message of the poll before. -/
theorem polls_wellRead_iff (mSubject : Str) (folder : MailFolder) (moves : List Move) :
    Run.Along next (fun s move => WellRead (next s move)) (State.initial mSubject folder) moves ↔
      Run.Along next MeetsLast (State.initial mSubject folder) moves := by
  apply Run.along_iff_along (I := Invariant)
  · intro s move invariant
    exact invariant.next move
  · intro s move invariant well
    exact next_wellRead_iff invariant well move
  · exact Invariant.initial mSubject folder
  · exact ⟨rfl, rfl, List.Pairwise.nil⟩

/-- A folder that has never had a message. -/
def newFolder : MailFolder where
  messages := []
  lastUid := 0
  uidValidity := 1
  ordered := List.Pairwise.nil
  positive := List.forall_mem_nil _
  bounded := List.forall_mem_nil _

/-- The first message of a folder that was empty at connect is lost. -/
theorem firstMessage_not_wellRead :
    ¬ Run.Along next (fun s move => WellRead (next s move))
      (State.initial (str "sequre-dialogues") newFolder)
      [.arrive 4 (str "sequre-dialogues") (str "peer@mail") (str "text"), .poll] := by
  intro along
  exact absurd along.2.1.results (by decide)

end ImapReciever

end SecureDialogues
