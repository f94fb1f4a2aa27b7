import SecureDialogues.Lib.Run

/-!
# The connection of a channel

`Channel` (`messages/src/communication/channel.cpp`) uses its adapter from two sides. The thread of
`messsageCycle` connects and receives, and remembers in a local flag whether it has to connect;
`sendMessage` is called by other threads and does not know the flag. Both hold `mMutex` where they
connect and send.
-/

namespace SecureDialogues

/-- The exceptions that the adapter throws: `DisconectedException`, `NotAuthorizedException` and any
other one. -/
inductive AdapterException where
  | disconected
  | notAuthorized
  | other
  deriving DecidableEq, Repr

/-- The adapter is no longer connected. -/
def AdapterException.loses : AdapterException → Bool
  | disconected | notAuthorized => true
  | other => false

/-! ## The adapter of a plugin -/

/-- `PluginApiErrorCodes` (`pluginapierrorcodes.h:6-13`). -/
inductive PluginApiErrorCodes where
  | noError
  | disconected
  | notAuthorized
  | sendFailed
  | recieveFailed
  | invalidAddress
  deriving DecidableEq, Repr

namespace PluginAdapter

/-- `PluginAdapter::connect` (`pluginadapter.cpp:66-69`). -/
def connect (res : PluginApiErrorCodes) : Except AdapterException Bool := .ok (res == .noError)

end PluginAdapter

/-- `Channel::ChannelStatus` (`channel.h:35-41`). -/
inductive ChannelStatus where
  | undefined
  | connected
  | failedConnect
  | authorizationFailed
  | badChannel
  deriving DecidableEq, Repr

namespace Channel

/-- What the channel does with its adapter and its event queue: calls and their outcomes. `connect`
returns under the mutex in which it is called, so its call and its outcome are one event. -/
inductive Event where
  | connect (outcome : Except AdapterException Bool)
  | receive
  | received (outcome : Except AdapterException Unit)
  | send
  | sent (outcome : Except AdapterException Unit)
  | enqueued (status : ChannelStatus)

/-- Where the thread of `messsageCycle` stands: before the condition of the loop, before the call of
`receive`, or in this call. -/
inductive Place where
  | loop
  | connected
  | receiving
  deriving DecidableEq, Repr

/-- A channel with its events, the latest first. -/
structure State where
  isDisconected : Bool
  place : Place
  mIsEnds : Bool
  /-- A call of `send` holds the mutex. -/
  sending : Bool
  events : List Event

/-- The channel when its thread starts. -/
def State.initial : State where
  isDisconected := true
  place := .loop
  mIsEnds := false
  sending := false
  events := []

/-- What can happen: the thread goes on, `connect` having the given outcome where it is called;
`receive` returns; `sendMessage` reaches its adapter; `send` returns; the channel is destructed. -/
inductive Move where
  | cycle (connect : Except AdapterException Bool)
  | received (outcome : Except AdapterException Unit)
  | sendMessage
  | sent (outcome : Except AdapterException Unit)
  | destruct

/-- What the handlers of the exceptions enqueue. -/
def failure : AdapterException → List Event
  | .disconected => [.enqueued .failedConnect]
  | .notAuthorized => [.enqueued .authorizationFailed]
  | .other => []

/-- The thread calls `connect`: it has to, and no call of `send` holds the mutex. -/
def State.connects (s : State) : Bool :=
  s.place == .loop && !s.mIsEnds && s.isDisconected && !s.sending

/-- The thread calls `receive`. -/
def State.receives (s : State) : Bool :=
  s.place == .connected || (s.place == .loop && !s.mIsEnds && !s.isDisconected)

/-- A step of the channel. A thread that cannot go on waits. -/
def next (s : State) : Move → State
  | .cycle connect =>
    if s.connects then
      match connect with
      | .ok connected => { s with
          isDisconected := false
          place := .connected
          events := .enqueued .connected :: .connect (.ok connected) :: s.events }
      | .error e => { s with
          isDisconected := e.loses || s.isDisconected
          events := failure e ++ .connect (.error e) :: s.events }
    else if s.receives then { s with place := .receiving, events := .receive :: s.events }
    else s
  | .received outcome =>
    if s.place = .receiving then
      match outcome with
      | .ok () => { s with place := .loop, events := .received (.ok ()) :: s.events }
      | .error e => { s with
          isDisconected := e.loses || s.isDisconected
          place := .loop
          events := failure e ++ .received (.error e) :: s.events }
    else s
  | .sendMessage => if s.sending then s else { s with sending := true, events := .send :: s.events }
  | .sent outcome =>
    if s.sending then
      match outcome with
      | .ok () => { s with sending := false, events := .sent (.ok ()) :: s.events }
      | .error e => { s with
          sending := false
          events := failure e ++ .sent (.error e) :: s.events }
    else s
  | .destruct => { s with mIsEnds := true }

/-! ## What the events tell -/

/-- The call has ended with an exception that loses the connection. -/
def loses : Except AdapterException Unit → Bool
  | .ok () => false
  | .error e => e.loses

/-- The most recent `connect` returned true. -/
def lastConnected : List Event → Bool
  | [] => false
  | .connect (.ok connected) :: _ => connected
  | .connect (.error _) :: _ => false
  | _ :: events => lastConnected events

/-- The most recent `connect` returned true, and no exception has lost the connection since. -/
def usable : List Event → Bool
  | [] => false
  | .connect (.ok connected) :: _ => connected
  | .connect (.error _) :: _ => false
  | .received outcome :: events | .sent outcome :: events => !loses outcome && usable events
  | _ :: events => usable events

/-- A `send` has lost the connection since the most recent `connect`. -/
def sendFailed : List Event → Bool
  | [] => false
  | .connect _ :: _ => false
  | .sent outcome :: events => loses outcome || sendFailed events
  | _ :: events => sendFailed events

/-- The adapter is called only while it is connected, and CONNECTED is enqueued only after a
`connect` that returned true. -/
def WellUsed : List Event → Prop
  | [] => True
  | .receive :: events | .send :: events => usable events = true ∧ WellUsed events
  | .enqueued .connected :: events => lastConnected events = true ∧ WellUsed events
  | _ :: events => WellUsed events

/-- No `connect` returns false; a text is sent, and a message received, only where no `send` has
lost the connection since the most recent `connect`, and sent only while the thread need not
connect. -/
def KeepsContract (s : State) : Move → Prop
  | .cycle connect => (s.connects = true → connect ≠ .ok false) ∧
      (s.receives = true → sendFailed s.events = false)
  | .sendMessage => s.sending = false → s.isDisconected = false ∧ sendFailed s.events = false
  | _ => True

/-! ## The invariant -/

/-- The flag tells, as far as the thread sees it, whether the adapter is connected. -/
structure Invariant (s : State) : Prop where
  inside : s.place ≠ .loop → s.isDisconected = false
  connected : WellUsed s.events → s.isDisconected = false → lastConnected s.events = true
  usable_eq : WellUsed s.events →
    usable s.events = (!s.isDisconected && !sendFailed s.events)

variable {s : State} {e : AdapterException} {events : List Event}

/-! What the handlers enqueue tells nothing. -/

@[simp] theorem lastConnected_failure :
    lastConnected (failure e ++ events) = lastConnected events := by
  cases e <;> rfl

@[simp] theorem usable_failure : usable (failure e ++ events) = usable events := by
  cases e <;> rfl

@[simp] theorem sendFailed_failure : sendFailed (failure e ++ events) = sendFailed events := by
  cases e <;> rfl

@[simp] theorem wellUsed_failure : WellUsed (failure e ++ events) ↔ WellUsed events := by
  cases e <;> rfl

theorem connects_eq_true : s.connects = true ↔
    s.place = .loop ∧ s.mIsEnds = false ∧ s.isDisconected = true ∧ s.sending = false := by
  simp [State.connects, and_assoc]

theorem receives_eq_true : s.receives = true ↔
    s.place = .connected ∨ s.place = .loop ∧ s.mIsEnds = false ∧ s.isDisconected = false := by
  simp [State.receives, and_assoc]

theorem Invariant.initial : Invariant State.initial := by
  refine ⟨fun away => absurd rfl away, ?_, fun _ => rfl⟩
  intro _ connected
  cases connected

/-- `receive` is called where the thread need not connect. -/
theorem Invariant.of_receives (invariant : Invariant s) (receives : s.receives = true) :
    s.isDisconected = false := by
  rcases receives_eq_true.mp receives with connected | ⟨-, -, open'⟩
  · exact invariant.inside (by simp [connected])
  · exact open'

section

variable (invariant : Invariant s)

include invariant

theorem Invariant.cycle (connect : Except AdapterException Bool) :
    Invariant (next s (.cycle connect)) := by
  unfold Channel.next
  dsimp only
  split
  · rename_i connects
    obtain ⟨atLoop, -, disconected, -⟩ := connects_eq_true.mp connects
    cases connect with
    | ok connected =>
      refine ⟨fun _ => rfl, ?_, ?_⟩
      · intro well _
        exact well.1
      · intro well
        exact well.1
    | error e =>
      refine ⟨fun away => absurd atLoop away, ?_, ?_⟩
      · intro _ open'
        simp [disconected] at open'
      · intro _
        simp [usable, disconected]
  split
  · rename_i receives
    refine ⟨fun _ => invariant.of_receives receives, ?_, ?_⟩
    · intro well open'
      exact invariant.connected well.2 open'
    · intro well
      exact invariant.usable_eq well.2
  · exact invariant

theorem Invariant.received (outcome : Except AdapterException Unit) :
    Invariant (next s (.received outcome)) := by
  unfold Channel.next
  dsimp only
  split
  swap
  · exact invariant
  rename_i receiving
  have open' : s.isDisconected = false := invariant.inside (by simp [receiving])
  cases outcome with
  | ok =>
    refine ⟨fun away => absurd rfl away, invariant.connected, ?_⟩
    intro well
    simpa [usable, sendFailed, loses] using invariant.usable_eq well
  | error e =>
    refine ⟨fun away => absurd rfl away, ?_, ?_⟩
    · intro well _
      simpa [lastConnected] using invariant.connected (by simpa [WellUsed] using well) open'
    · intro well
      have before := invariant.usable_eq (by simpa [WellUsed] using well)
      simp [usable, sendFailed, loses, before, open']

theorem Invariant.sendMessage : Invariant (next s .sendMessage) := by
  unfold Channel.next
  dsimp only
  split
  · exact invariant
  · refine ⟨invariant.inside, ?_, ?_⟩
    · intro well open'
      exact invariant.connected well.2 open'
    · intro well
      exact invariant.usable_eq well.2

theorem Invariant.sent (outcome : Except AdapterException Unit) :
    Invariant (next s (.sent outcome)) := by
  unfold Channel.next
  dsimp only
  split
  swap
  · exact invariant
  cases outcome with
  | ok =>
    refine ⟨invariant.inside, invariant.connected, ?_⟩
    intro well
    simpa [usable, sendFailed, loses] using invariant.usable_eq well
  | error e =>
    refine ⟨invariant.inside, ?_, ?_⟩
    · intro well open'
      simpa [lastConnected] using invariant.connected (by simpa [WellUsed] using well) open'
    · intro well
      have before := invariant.usable_eq (by simpa [WellUsed] using well)
      cases lost : e.loses <;> simp [usable, sendFailed, loses, before, lost]

theorem Invariant.next (move : Move) : Invariant (next s move) := by
  cases move with
  | cycle connect => exact invariant.cycle connect
  | received outcome => exact invariant.received outcome
  | sendMessage => exact invariant.sendMessage
  | sent outcome => exact invariant.sent outcome
  | destruct => exact ⟨invariant.inside, invariant.connected, invariant.usable_eq⟩

end

/-! ## Runs -/

/-- A step keeps a channel well used exactly if it keeps the contract. -/
theorem next_wellUsed_iff (invariant : Invariant s) (well : WellUsed s.events) (move : Move) :
    WellUsed (next s move).events ↔ KeepsContract s move := by
  have usable_eq := invariant.usable_eq well
  cases move with
  | cycle connect =>
    unfold Channel.next KeepsContract
    dsimp only
    split
    · rename_i connects
      have receives : s.receives = false := by
        obtain ⟨atLoop, -, disconected, -⟩ := connects_eq_true.mp connects
        simp [State.receives, atLoop, disconected]
      cases connect with
      | ok connected =>
        simp [WellUsed, lastConnected, connects, receives, well]
      | error e =>
        simp [WellUsed, connects, receives, well]
    · rename_i connects
      split
      · rename_i receives
        simp [WellUsed, connects, receives, well, usable_eq, invariant.of_receives receives]
      · rename_i receives
        simp [connects, receives, well]
  | received outcome =>
    unfold Channel.next KeepsContract
    dsimp only
    split
    · cases outcome <;> simp [WellUsed, well]
    · simp [well]
  | sendMessage =>
    unfold Channel.next KeepsContract
    dsimp only
    split
    · rename_i busy
      simp [well, busy]
    · rename_i free
      simp [WellUsed, well, usable_eq, free]
  | sent outcome =>
    unfold Channel.next KeepsContract
    dsimp only
    split
    · cases outcome <;> simp [WellUsed, well]
    · simp [well]
  | destruct => exact iff_of_true well trivial

/-- In every run of a channel the adapter is called only while it is connected, and CONNECTED is
enqueued only after a successful `connect`, exactly if all steps keep the contract. -/
theorem wellUsed_iff (moves : List Move) :
    Run.Along next (fun s move => WellUsed (next s move).events) State.initial moves ↔
      Run.Along next KeepsContract State.initial moves := by
  apply Run.along_iff_along (I := Invariant) (W := fun s => WellUsed s.events)
  · intro s move invariant
    exact invariant.next move
  · intro s move invariant well
    exact next_wellUsed_iff invariant well move
  · exact Invariant.initial
  · trivial

/-- A plugin that cannot connect is taken for connected. -/
theorem failedPlugin_not_wellUsed :
    ¬ Run.Along next (fun s move => WellUsed (next s move).events) State.initial
      [.cycle (PluginAdapter.connect .disconected)] := by
  intro along
  exact absurd along.1.1 (by decide)

end Channel

end SecureDialogues
