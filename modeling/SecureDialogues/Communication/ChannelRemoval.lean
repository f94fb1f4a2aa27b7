import SecureDialogues.Communication.MessageDespatcher
import SecureDialogues.Lib.Run
import SecureDialogues.Lib.SharedMutex

/-!
# The removal of a channel

`MessageDespatcher::removeChannel` (`messagedespatcher.cpp:154-158`) runs together with the receive
thread of the channel. The channel is destroyed while `mMutex` is locked, and its destructor
(`channel.cpp:42-51`) waits for the thread, which takes the same mutex for each acknowledgement, for
the handlers and for their replies.
-/

namespace SecureDialogues.ChannelRemoval

/-! ## The two threads -/

/-- Where `removeChannel` stands. -/
inductive Remover where
  | entering
  | erasing
  | destroying
  | joining
  | leaving
  | returned
  deriving DecidableEq, Repr

/-- Where `Channel::messsageCycle` stands, with the rest of the received messages. -/
inductive Cycle (w : Nat) where
  /-- The test of `mIsEnds`. -/
  | test
  | receiving
  | messages (msgList : List (DialogMessage w))
  /-- `sendAck` asks for the shared lock of `sendAndForget`. -/
  | acking (msgList : List (DialogMessage w))
  | acknowledging (msgList : List (DialogMessage w))
  /-- The signature and the time stamp are checked. -/
  | checking (msgList : List (DialogMessage w))
  /-- `dispatch` asks for the shared lock of the handlers. -/
  | accepted (msgList : List (DialogMessage w))
  | handling (msgList : List (DialogMessage w))
  /-- A handler asks for the shared lock of `sendMessage` or `sendAndForget`. -/
  | replying (msgList : List (DialogMessage w))
  | answering (msgList : List (DialogMessage w))
  | finished

def Cycle.isFinished {w : Nat} : Cycle w → Bool
  | finished => true
  | _ => false

/-- The mutex, whether the channel is among `mChannels`, its flag, and the two threads. -/
structure State (w : Nat) where
  mMutex : SharedMutex
  listed : Bool
  mIsEnds : Bool
  remover : Remover
  cycle : Cycle w

/-- The next step is one of the remover, or one of the receive thread, which may receive messages
(none, if the adapter throws), and accept the message or get a reply from the handlers. -/
inductive Turn (w : Nat) where
  | remover
  | cycle (received : List (DialogMessage w)) (choice : Bool)

variable {w : Nat}

/-- A step of `removeChannel`. -/
def removeChannel (s : State w) : State w :=
  match s.remover with
  | .entering =>
    match s.mMutex.lock with
    | some mMutex => { s with mMutex, remover := .erasing }
    | none => s
  | .erasing => { s with listed := false, remover := .destroying }
  | .destroying => { s with mIsEnds := true, remover := .joining }
  | .joining => if s.cycle.isFinished then { s with remover := .leaving } else s
  | .leaving => { s with mMutex := s.mMutex.unlock, remover := .returned }
  | .returned => s

/-- A step with the shared lock, or none as long as it is not free. -/
def withSharedLock (s : State w) (cycle : Cycle w) : State w :=
  match s.mMutex.lockShared with
  | some mMutex => { s with mMutex, cycle }
  | none => s

/-- A step of `Channel::messsageCycle` (`channel.cpp:53-99`) and of
`MessageDespatcher::dispatch` in it. -/
def messsageCycle (received : List (DialogMessage w)) (choice : Bool) (s : State w) : State w :=
  match s.cycle with
  | .test => { s with cycle := if s.mIsEnds then .finished else .receiving }
  | .receiving => { s with cycle := .messages received }
  | .messages [] => { s with cycle := .test }
  | .messages (message :: rest) =>
    if message.mAction = .ack then { s with cycle := .messages rest }
    else if message.mAction ≠ .abort ∧ 0 < message.mSequentialNumber ∧ s.listed = true then
      { s with cycle := .acking rest }
    else { s with cycle := .checking rest }
  | .acking rest => withSharedLock s (.acknowledging rest)
  | .acknowledging rest => { s with mMutex := s.mMutex.unlockShared, cycle := .checking rest }
  | .checking rest => { s with cycle := if choice then .accepted rest else .messages rest }
  | .accepted rest => withSharedLock s (.handling rest)
  | .handling rest =>
    if choice then { s with cycle := .replying rest }
    else { s with mMutex := s.mMutex.unlockShared, cycle := .messages rest }
  | .replying rest => withSharedLock s (.answering rest)
  | .answering rest => { s with mMutex := s.mMutex.unlockShared, cycle := .handling rest }
  | .finished => s

def step (s : State w) : Turn w → State w
  | .remover => removeChannel s
  | .cycle received choice => messsageCycle received choice s

/-- The channel is added and its thread is started. -/
def initial : State w := ⟨.free, true, false, .entering, .test⟩

/-- The thread asks for `mMutex`. -/
def Cycle.waits : Cycle w → Bool
  | acking _ | accepted _ | replying _ => true
  | _ => false

/-- The remover waits for the thread, and the thread for the mutex. -/
def Deadlocked (s : State w) : Prop := s.remover = .joining ∧ s.cycle.waits = true

instance (s : State w) : Decidable (Deadlocked s) := inferInstanceAs (Decidable (_ ∧ _))

/-- The remover is inside of its lock. -/
def Remover.holds : Remover → Bool
  | erasing | destroying | joining | leaving => true
  | entering | returned => false

/-- The channel is still listed. -/
def Remover.lists : Remover → Bool
  | entering | erasing => true
  | destroying | joining | leaving | returned => false

/-- How many shared locks the thread holds. -/
def Cycle.holds : Cycle w → Nat
  | acknowledging _ | handling _ | replying _ => 1
  | answering _ => 2
  | _ => 0

/-- The mutex and the list are as the places of the threads say. -/
structure Consistent (s : State w) : Prop where
  writer : s.mMutex.writer = s.remover.holds
  readers : s.mMutex.readers = s.cycle.holds
  listed : s.listed = s.remover.lists

/-- While the remover is inside of its lock, the thread holds no shared one. -/
theorem Consistent.holds_eq_zero {s : State w} (consistent : Consistent s)
    (holds : s.remover.holds = true) : s.cycle.holds = 0 := by
  rw [← consistent.readers]
  exact s.mMutex.exclusive (consistent.writer.trans holds)

/-- A thread that waits then comes from `sendAck` or from `dispatch`. -/
theorem Consistent.waits_iff {s : State w} (consistent : Consistent s)
    (holds : s.remover.holds = true) :
    s.cycle.waits = true ↔ ∃ rest, s.cycle = .acking rest ∨ s.cycle = .accepted rest := by
  have idle := consistent.holds_eq_zero holds
  cases place : s.cycle with
  | replying rest =>
    rw [place] at idle
    cases idle
  | _ => simp [Cycle.waits]

/-- The thread that joins waits for the thread that has no lock to take. -/
theorem withSharedLock_of_holds {s : State w} (consistent : Consistent s)
    (holds : s.remover.holds = true) (cycle : Cycle w) : withSharedLock s cycle = s := by
  rw [withSharedLock, SharedMutex.lockShared_of_writer (consistent.writer.trans holds)]

theorem deadlocked_step {s : State w} (consistent : Consistent s) (deadlocked : Deadlocked s)
    (turn : Turn w) : step s turn = s := by
  obtain ⟨joining, waits⟩ := deadlocked
  have holds : s.remover.holds = true := by rw [joining]; rfl
  obtain ⟨rest, acking | accepted⟩ := (consistent.waits_iff holds).mp waits
  · cases turn with
    | remover => simp [step, removeChannel, joining, acking, Cycle.isFinished]
    | cycle received choice =>
      rw [step, messsageCycle, acking]
      exact withSharedLock_of_holds consistent holds _
  · cases turn with
    | remover => simp [step, removeChannel, joining, accepted, Cycle.isFinished]
    | cycle received choice =>
      rw [step, messsageCycle, accepted]
      exact withSharedLock_of_holds consistent holds _

/-- A deadlock is never left, whatever the threads try. -/
theorem deadlocked_after {s : State w} (consistent : Consistent s) (deadlocked : Deadlocked s)
    (turns : List (Turn w)) : Run.after step s turns = s := by
  induction turns with
  | nil => rfl
  | cons turn rest ih =>
    change Run.after step (step s turn) rest = s
    rw [deadlocked_step consistent deadlocked turn]
    exact ih

end SecureDialogues.ChannelRemoval
