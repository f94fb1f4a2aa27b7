import SecureDialogues.Communication.Channel
import SecureDialogues.Lib.Table
import SecureDialogues.PersistentStorage.ConnectionMarshaller

/-!
# The channels of the stored connections

`ConnectStorageListener` (`messages/src/containers/connectstoragelistener.cpp`) registers a channel
with the despatcher for each connection that comes into the storage. Every connection has one
outcome of the adapter factory, so `changed`, which asks the factory twice, gets it twice.
-/

namespace SecureDialogues

open Text

/-- `PluginConnectionInfo::getWaitPeriod`, in seconds. -/
def PluginConnectionInfo.getWaitPeriod {i : Nat} : PluginConnectionInfo i → Int
  | .vk _ => 30
  | .gmail _ => 40
  | .smtp _ => 360

/-- What the adapter factory does: it makes an adapter or none, or throws. -/
inductive Fabricated (A : Type) where
  | adapter (adapter : A)
  | none
  | disconected
  | notAuthorized
  deriving DecidableEq, Repr

/-- A channel as it is registered. -/
structure RegisteredChannel (A : Type) where
  mAdapter : A
  mName : Str
  mWaitAckInterval : Int
  deriving DecidableEq, Repr

/-- The listener: the channels of the despatcher and the event queue. -/
structure ConnectStorageListener (A : Type) where
  mChannels : Table (RegisteredChannel A)
  mEventQueue : List (ChannelStatus × Str)

namespace ConnectStorageListener

variable {A : Type} {i : Nat}

/-- `MessageDespatcher::add` (`messagedespatcher.cpp:112-119`), if its `assert` holds. -/
def add (listener : ConnectStorageListener A) (channel : RegisteredChannel A) (channelName : Str) :
    Option (ConnectStorageListener A) :=
  if channelName ∈ listener.mChannels then none
  else some { listener with mChannels := listener.mChannels.insert channelName channel }

/-- `MessageDespatcher::removeChannel` (`messagedespatcher.cpp:154-158`). -/
def removeChannel (listener : ConnectStorageListener A) (channel : Str) :
    ConnectStorageListener A :=
  { listener with mChannels := listener.mChannels.erase channel }

def enqueue (listener : ConnectStorageListener A) (status : ChannelStatus) (connName : Str) :
    ConnectStorageListener A :=
  { listener with mEventQueue := listener.mEventQueue ++ [(status, connName)] }

variable (mFabric : ConnectionHolder i → Fabricated A)

/-- What `added` and `changed` do with the outcome of the factory. -/
def register (obj : ConnectionHolder i) (connInfo : PluginConnectionInfo i)
    (listener : ConnectStorageListener A) : Option (ConnectStorageListener A) :=
  match mFabric obj with
  | .adapter conn =>
    listener.add ⟨conn, obj.mConnName, connInfo.getWaitPeriod⟩ obj.mConnName
  | .none => some (listener.enqueue .badChannel obj.mConnName)
  | .disconected => some (listener.enqueue .failedConnect obj.mConnName)
  | .notAuthorized => some (listener.enqueue .authorizationFailed obj.mConnName)

/-- `ConnectStorageListener::added` (`connectstoragelistener.cpp:41-66`). -/
def added (obj : ConnectionHolder i) (listener : ConnectStorageListener A) :
    Option (ConnectStorageListener A) :=
  match obj.mPluginConnInfo with
  | none => some listener
  | some connInfo => register mFabric obj connInfo listener

/-- `ConnectStorageListener::changed` (`connectstoragelistener.cpp:68-93`). -/
def changed (obj : ConnectionHolder i) (listener : ConnectStorageListener A) :
    Option (ConnectStorageListener A) :=
  match obj.mPluginConnInfo with
  | none => some listener
  | some connInfo => register mFabric obj connInfo (listener.removeChannel obj.mConnName)

/-- `ConnectStorageListener::removed` (`connectstoragelistener.cpp:95-97`). -/
def removed (obj : ConnectionHolder i) (listener : ConnectStorageListener A) :
    ConnectStorageListener A :=
  listener.removeChannel obj.mConnName

end ConnectStorageListener

/-! ## The storage and its listener -/

/-- The connections that are stored when the listener is constructed. -/
structure StoredConnections (i : Nat) where
  elements : List (ConnectionHolder i)
  distinct : elements.Pairwise fun a b => a.mConnName ≠ b.mConnName

/-- The connection storage with its listener, which is lost where an `assert` fails. -/
structure ConnectionSystem (A : Type) (i : Nat) where
  storage : Table (ConnectionHolder i)
  listener : Option (ConnectStorageListener A)

/-- An event of the storage. -/
inductive ConnectionEvent (i : Nat) where
  | added (obj : ConnectionHolder i)
  | changed (obj : ConnectionHolder i)
  | removed (obj : ConnectionHolder i)

namespace ConnectionSystem

variable {A : Type} {i : Nat} (mFabric : ConnectionHolder i → Fabricated A)

/-- The listener is constructed over the stored connections (`connectstoragelistener.cpp:26-39`). -/
def construct (connections : StoredConnections i) : ConnectionSystem A i where
  storage := connections.elements.foldl (fun storage obj => storage.insert obj.mConnName obj) ∅
  listener := connections.elements.foldl
    (fun listener obj => listener.bind (ConnectStorageListener.added mFabric obj)) (some ⟨∅, []⟩)

/-- The storage adds absent names only, and changes and removes present ones. -/
def next (s : ConnectionSystem A i) : ConnectionEvent i → ConnectionSystem A i
  | .added obj =>
    if obj.mConnName ∈ s.storage then s
    else {
      storage := s.storage.insert obj.mConnName obj
      listener := s.listener.bind (ConnectStorageListener.added mFabric obj) }
  | .changed obj =>
    if obj.mConnName ∈ s.storage then {
      storage := s.storage.insert obj.mConnName obj
      listener := s.listener.bind (ConnectStorageListener.changed mFabric obj) }
    else s
  | .removed obj =>
    if obj.mConnName ∈ s.storage then {
      storage := s.storage.erase obj.mConnName
      listener := s.listener.map (ConnectStorageListener.removed obj) }
    else s

/-- The channel that a connection asks for, if it has a plugin and the factory makes an adapter. -/
def wanted (obj : ConnectionHolder i) : Option (RegisteredChannel A) :=
  obj.mPluginConnInfo.bind fun connInfo =>
    match mFabric obj with
    | .adapter conn => some ⟨conn, obj.mConnName, connInfo.getWaitPeriod⟩
    | _ => none

/-- No `assert` has failed, and the registered channels are those of the stored connections. -/
def Follows (s : ConnectionSystem A i) : Prop :=
  ∃ listener, s.listener = some listener ∧
    ∀ connName : Str, listener.mChannels[connName]? = s.storage[connName]?.bind (wanted mFabric)

/-- A connection that has a channel is not changed to one without plugin connection info. -/
def KeepsPlugin (s : ConnectionSystem A i) : ConnectionEvent i → Prop
  | .changed obj => ∀ old, s.storage[obj.mConnName]? = some old → obj.mPluginConnInfo = none →
      wanted mFabric old = none
  | _ => True

/-! ## The listener by its channels -/

variable {mFabric} {listener : ConnectStorageListener A} {obj : ConnectionHolder i}
  {s : ConnectionSystem A i}

variable (mFabric) in
/-- A connection without a channel gets the one it asks for. -/
theorem register_spec {connInfo : PluginConnectionInfo i}
    (plugin : obj.mPluginConnInfo = some connInfo) (absent : obj.mConnName ∉ listener.mChannels) :
    ∃ listener', ConnectStorageListener.register mFabric obj connInfo listener = some listener' ∧
      ∀ connName, listener'.mChannels[connName]? =
        if obj.mConnName = connName then wanted mFabric obj else listener.mChannels[connName]? := by
  have kept : wanted mFabric obj = none → ∀ connName, listener.mChannels[connName]? =
      if obj.mConnName = connName then wanted mFabric obj else listener.mChannels[connName]? := by
    intro unwanted connName
    split
    · rename_i same
      rw [unwanted, ← same]
      exact Std.ExtTreeMap.getElem?_eq_none absent
    · rfl
  unfold ConnectStorageListener.register
  cases outcome : mFabric obj with
  | adapter conn =>
    refine ⟨_, if_neg absent, ?_⟩
    intro connName
    rw [getElem?_insert, wanted, plugin, Option.bind_some, outcome]
  | none =>
    exact ⟨_, rfl, kept (by rw [wanted, plugin, Option.bind_some, outcome])⟩
  | disconected =>
    exact ⟨_, rfl, kept (by rw [wanted, plugin, Option.bind_some, outcome])⟩
  | notAuthorized =>
    exact ⟨_, rfl, kept (by rw [wanted, plugin, Option.bind_some, outcome])⟩

variable (mFabric) in
theorem added_spec (absent : obj.mConnName ∉ listener.mChannels) :
    ∃ listener', ConnectStorageListener.added mFabric obj listener = some listener' ∧
      ∀ connName, listener'.mChannels[connName]? =
        if obj.mConnName = connName then wanted mFabric obj else listener.mChannels[connName]? := by
  unfold ConnectStorageListener.added
  cases plugin : obj.mPluginConnInfo with
  | none =>
    refine ⟨_, rfl, ?_⟩
    intro connName
    split
    · rename_i same
      rw [wanted, plugin, ← same]
      exact Std.ExtTreeMap.getElem?_eq_none absent
    · rfl
  | some connInfo => exact register_spec mFabric plugin absent

variable (mFabric) in
/-- A changed connection gets the channel it asks for, or keeps the one it has. -/
theorem changed_spec (obj : ConnectionHolder i) (listener : ConnectStorageListener A) :
    ∃ listener', ConnectStorageListener.changed mFabric obj listener = some listener' ∧
      ∀ connName, listener'.mChannels[connName]? =
        if obj.mConnName = connName ∧ obj.mPluginConnInfo ≠ none then wanted mFabric obj
        else listener.mChannels[connName]? := by
  unfold ConnectStorageListener.changed
  cases plugin : obj.mPluginConnInfo with
  | none => exact ⟨_, rfl, fun connName => by simp⟩
  | some connInfo =>
    have absent : obj.mConnName ∉ (listener.removeChannel obj.mConnName).mChannels := by
      simp [ConnectStorageListener.removeChannel, Std.ExtTreeMap.mem_erase]
    obtain ⟨listener', registered, channels⟩ := register_spec mFabric plugin absent
    refine ⟨listener', registered, ?_⟩
    intro connName
    rw [channels]
    by_cases same : obj.mConnName = connName
    · simp [same]
    · simp [same, ConnectStorageListener.removeChannel, getElem?_erase]

/-! ## One event -/

/-- No `assert` has failed, and only stored connections have channels. -/
def Sound (s : ConnectionSystem A i) : Prop :=
  ∃ listener, s.listener = some listener ∧ ∀ connName ∈ listener.mChannels, connName ∈ s.storage

theorem mem_of_getElem?_ite {connName : Str} {channels channels' : Table (RegisteredChannel A)}
    {c : Prop} [Decidable c] {channel : Option (RegisteredChannel A)}
    (found : channels'[connName]? = if c then channel else channels[connName]?)
    (member : connName ∈ channels') : c ∨ connName ∈ channels := by
  by_cases here : c
  · exact .inl here
  · rw [if_neg here] at found
    exact .inr (by rwa [Std.ExtTreeMap.mem_iff_isSome_getElem?, ← found,
      ← Std.ExtTreeMap.mem_iff_isSome_getElem?])

theorem Sound.next (sound : Sound s) (event : ConnectionEvent i) :
    Sound (next mFabric s event) := by
  obtain ⟨listener, here, stored⟩ := sound
  cases event with
  | added obj =>
    unfold ConnectionSystem.next
    dsimp only
    split
    · exact ⟨listener, here, stored⟩
    rename_i new
    obtain ⟨listener', added, channels⟩ := added_spec mFabric
      fun member => new (stored _ member)
    refine ⟨listener', by rw [here]; exact added, ?_⟩
    intro connName member
    rw [Std.ExtTreeMap.mem_insert, Std.LawfulEqCmp.compare_eq_iff_eq]
    exact (mem_of_getElem?_ite (channels connName) member).imp_right (stored connName)
  | changed obj =>
    unfold ConnectionSystem.next
    dsimp only
    split
    swap
    · exact ⟨listener, here, stored⟩
    obtain ⟨listener', changed, channels⟩ := changed_spec mFabric obj listener
    refine ⟨listener', by rw [here]; exact changed, ?_⟩
    intro connName member
    rw [Std.ExtTreeMap.mem_insert, Std.LawfulEqCmp.compare_eq_iff_eq]
    exact (mem_of_getElem?_ite (channels connName) member).imp And.left (stored connName)
  | removed obj =>
    unfold ConnectionSystem.next
    dsimp only
    split
    swap
    · exact ⟨listener, here, stored⟩
    refine ⟨_, by rw [here]; rfl, ?_⟩
    intro connName member
    rw [ConnectStorageListener.removed, ConnectStorageListener.removeChannel] at member
    rw [Std.ExtTreeMap.mem_erase] at member ⊢
    exact ⟨member.1, stored connName member.2⟩

theorem Follows.sound (follows : Follows mFabric s) : Sound s := by
  obtain ⟨listener, here, channels⟩ := follows
  refine ⟨listener, here, ?_⟩
  intro connName member
  rw [Std.ExtTreeMap.mem_iff_isSome_getElem?, channels] at member
  rw [Std.ExtTreeMap.mem_iff_isSome_getElem?]
  cases found : s.storage[connName]? with
  | none =>
    rw [found] at member
    cases member
  | some obj => rfl

section

variable (follows : Follows mFabric s) (obj : ConnectionHolder i)

include follows

theorem follows_added : Follows mFabric (next mFabric s (.added obj)) := by
  obtain ⟨listener₀, known, stored⟩ := follows.sound
  obtain ⟨listener, here, channels⟩ := id follows
  unfold ConnectionSystem.next
  dsimp only
  split
  · exact follows
  rename_i new
  have absent : obj.mConnName ∉ listener.mChannels := by
    rw [Option.some.inj (here.symm.trans known)]
    intro member
    exact new (stored _ member)
  obtain ⟨listener', added, channels'⟩ := added_spec mFabric absent
  refine ⟨listener', by rw [here]; exact added, ?_⟩
  intro connName
  rw [channels', channels, getElem?_insert]
  split <;> rfl

theorem follows_removed : Follows mFabric (next mFabric s (.removed obj)) := by
  obtain ⟨listener, here, channels⟩ := id follows
  unfold ConnectionSystem.next
  dsimp only
  split
  swap
  · exact follows
  refine ⟨_, by rw [here]; rfl, ?_⟩
  intro connName
  rw [ConnectStorageListener.removed, ConnectStorageListener.removeChannel, getElem?_erase,
    getElem?_erase, channels]
  split <;> rfl

/-- After a change the channels follow where the listener's early return makes no difference. -/
theorem changed_follows_iff_forall (present : obj.mConnName ∈ s.storage) :
    Follows mFabric (next mFabric s (.changed obj)) ↔
      ∀ connName, (if obj.mConnName = connName ∧ obj.mPluginConnInfo ≠ none then
          wanted mFabric obj else s.storage[connName]?.bind (wanted mFabric)) =
        (if obj.mConnName = connName then some obj else s.storage[connName]?).bind
          (wanted mFabric) := by
  obtain ⟨listener, here, channels⟩ := follows
  obtain ⟨listener', changed, channels'⟩ := changed_spec mFabric obj listener
  unfold ConnectionSystem.next
  dsimp only
  rw [if_pos present]
  simp only [Follows, here, Option.bind_some, changed, Option.some.injEq, exists_eq_left',
    channels', channels, getElem?_insert]

theorem changed_follows_iff :
    Follows mFabric (next mFabric s (.changed obj)) ↔ KeepsPlugin mFabric s (.changed obj) := by
  by_cases present : obj.mConnName ∈ s.storage
  swap
  · have same : next mFabric s (.changed obj) = s := if_neg present
    rw [same, KeepsPlugin, Std.ExtTreeMap.getElem?_eq_none present]
    exact iff_of_true follows fun old found => by cases found
  obtain ⟨old, found⟩ : ∃ old, s.storage[obj.mConnName]? = some old :=
    Option.isSome_iff_exists.mp (Std.ExtTreeMap.mem_iff_isSome_getElem?.mp present)
  rw [changed_follows_iff_forall follows obj present, KeepsPlugin, found]
  constructor
  · intro same old' stored unplugged
    cases stored
    have atName := same obj.mConnName
    rw [if_neg (by simp [unplugged]), if_pos rfl, found] at atName
    rw [Option.bind_some, Option.bind_some] at atName
    rw [atName, wanted, unplugged]
    rfl
  · intro kept connName
    by_cases same : obj.mConnName = connName
    · subst same
      by_cases plugged : obj.mPluginConnInfo = none
      · rw [if_neg (by simp [plugged]), if_pos rfl, found, Option.bind_some,
          kept old rfl plugged, Option.bind_some, wanted, plugged]
        rfl
      · rw [if_pos ⟨rfl, plugged⟩, if_pos rfl, Option.bind_some]
    · rw [if_neg (fun both => same both.1), if_neg same]

end

/-- The channels follow an event exactly if no connection with a channel loses its plugin. -/
theorem next_follows_iff (follows : Follows mFabric s) (event : ConnectionEvent i) :
    Follows mFabric (next mFabric s event) ↔ KeepsPlugin mFabric s event := by
  cases event with
  | added obj => exact iff_of_true (follows_added follows obj) trivial
  | changed obj => exact changed_follows_iff follows obj
  | removed obj => exact iff_of_true (follows_removed follows obj) trivial

/-! ## Runs -/

/-- The construction is the addition of the stored connections one after the other. -/
theorem construct_eq_after (connections : StoredConnections i) :
    construct mFabric connections =
      Run.after (next mFabric) ⟨∅, some ⟨∅, []⟩⟩ (connections.elements.map .added) := by
  obtain ⟨elements, distinct⟩ := connections
  have added : ∀ (storage : Table (ConnectionHolder i))
      (listener : Option (ConnectStorageListener A)),
      (∀ obj ∈ elements, obj.mConnName ∉ storage) →
        Run.after (next mFabric) ⟨storage, listener⟩ (elements.map .added) =
          ⟨elements.foldl (fun storage obj => storage.insert obj.mConnName obj) storage,
            elements.foldl (fun listener obj =>
              listener.bind (ConnectStorageListener.added mFabric obj)) listener⟩ := by
    induction elements with
    | nil => exact fun _ _ _ => rfl
    | cons obj rest ih =>
      intro storage listener absent
      rw [List.pairwise_cons] at distinct
      have step : next mFabric ⟨storage, listener⟩ (.added obj) =
          ⟨storage.insert obj.mConnName obj,
            listener.bind (ConnectStorageListener.added mFabric obj)⟩ :=
        if_neg (absent obj List.mem_cons_self)
      show Run.after (next mFabric) (next mFabric ⟨storage, listener⟩ (.added obj)) _ = _
      rw [step]
      apply ih distinct.2
      intro later member
      rw [Std.ExtTreeMap.mem_insert, Std.LawfulEqCmp.compare_eq_iff_eq, not_or]
      exact ⟨distinct.1 later member, absent later (List.mem_cons_of_mem _ member)⟩
  exact (added ∅ (some ⟨∅, []⟩) (by simp)).symm

variable (mFabric) in
theorem construct_follows (connections : StoredConnections i) :
    Follows mFabric (construct mFabric connections) := by
  rw [construct_eq_after]
  refine Run.invariant_after (C := fun _ event => ∃ obj, event = .added obj) ?_ ?_ ?_
  · intro s event follows added
    obtain ⟨obj, rfl⟩ := added
    exact (next_follows_iff follows (.added obj)).mpr trivial
  · exact ⟨_, rfl, fun connName => by simp⟩
  · apply Run.along_of_mem
    intro event member
    obtain ⟨obj, -, rfl⟩ := List.mem_map.mp member
    exact ⟨obj, rfl⟩

/-- The `assert` of `MessageDespatcher::add` never fails. -/
theorem assert_holds (mFabric : ConnectionHolder i → Fabricated A)
    (connections : StoredConnections i) (events : List (ConnectionEvent i)) :
    Sound (Run.after (next mFabric) (construct mFabric connections) events) :=
  Run.invariant_after (C := fun _ _ => True) (fun _ event sound _ => sound.next event)
    (construct_follows mFabric connections).sound (Run.along_of_forall (fun _ _ => trivial) _ _)

/-- From the construction on the channels follow the stored connections through every run of events
exactly if no connection that has a channel is changed to one without plugin connection info. -/
theorem channels_follow_iff (mFabric : ConnectionHolder i → Fabricated A)
    (connections : StoredConnections i) (events : List (ConnectionEvent i)) :
    Follows mFabric (construct mFabric connections) ∧
        Run.Along (next mFabric) (fun s event => Follows mFabric (next mFabric s event))
          (construct mFabric connections) events ↔
      Run.Along (next mFabric) (KeepsPlugin mFabric) (construct mFabric connections) events := by
  have start := construct_follows mFabric connections
  rw [and_iff_right start]
  apply Run.along_iff_along (I := fun _ => True) (W := Follows mFabric)
  · intro s event _
    trivial
  · intro s event _ follows
    exact next_follows_iff follows event
  · trivial
  · exact start

/-- A stored connection is changed to one without plugin connection info, and its channel stays. -/
theorem channel_outlives_plugin :
    let mail : ConnectionHolder 32 := ⟨str "mail", some (.vk ⟨[], []⟩)⟩
    let mFabric : ConnectionHolder 32 → Fabricated Unit := fun _ => .adapter ()
    ¬ Run.Along (next mFabric) (fun s event => Follows mFabric (next mFabric s event))
      (construct mFabric ⟨[mail], List.pairwise_singleton _ _⟩) [.changed ⟨str "mail", none⟩] := by
  intro mail mFabric along
  obtain ⟨listener, here, channels⟩ := along.1
  have stays : (next mFabric (construct mFabric ⟨[mail], List.pairwise_singleton _ _⟩)
      (.changed ⟨str "mail", none⟩)).listener.map (·.mChannels.contains (str "mail")) =
        some true := by
    decide +kernel
  have unwanted : (next mFabric (construct mFabric ⟨[mail], List.pairwise_singleton _ _⟩)
      (.changed ⟨str "mail", none⟩)).storage[str "mail"]?.bind (wanted mFabric) = none := by
    decide +kernel
  rw [here, Option.map_some, Option.some.injEq, Std.ExtTreeMap.contains_eq_isSome_getElem?,
    channels, unwanted] at stays
  cases stays

end ConnectionSystem

end SecureDialogues
