import SecureDialogues.Communication.Channel
import SecureDialogues.Lib.KeyedList
import SecureDialogues.Lib.Run
import SecureDialogues.PersistentStorage.ConnectionMarshaller
import SecureDialogues.Primitives.Contact

/-!
# The lists of the dialogs

`ContactModel`, `ConnectionInfoModel` and `ChannelsListModel` under `gui/src/models` hold a row for
each element of a storage and follow its events. A `QString` is the UTF-8 of its text.
-/

namespace SecureDialogues

open Text

/-! ## Contacts -/

/-- `ContactModel::Element` (`contactmodel.h:38-41`). -/
structure ContactRow where
  id : Str
  display : Str
  deriving DecidableEq, Repr

namespace ContactModel

/-- `format.arg` (`contactmodel.cpp:4`). -/
def format (contact : Contact) : Str := contact.name ++ str " (" ++ contact.adress ++ str ")"

def row (contact : Contact) : ContactRow := ⟨contact.id, format contact⟩

/-- `added`, `changed` and `removed` (`contactmodel.cpp:43-71`). -/
def hear (mData : List ContactRow) : KeyedEvent Contact → List ContactRow
  | .added element => mData ++ [row element]
  | .changed element =>
    modifyFirst ContactRow.id element.id (fun found => { found with display := format element }) mData
  | .removed element => eraseFirst ContactRow.id element.id mData

end ContactModel

/-! ## Connections -/

/-- `ConnectionInfoModel::ConnData` (`connectioninfomodel.h:49-52`). -/
structure ConnData where
  connName : Str
  status : ChannelStatus
  deriving DecidableEq, Repr

variable {i : Nat} {V : Type}

namespace ConnectionInfoModel

def row (element : ConnectionHolder i) : ConnData := ⟨cstr element.mConnName, .undefined⟩

/-- `added`, `changed` and `removed` (`connectioninfomodel.cpp:54-75`). -/
def hear (mData : List ConnData) : KeyedEvent (ConnectionHolder i) → List ConnData
  | .added element => mData ++ [row element]
  | .changed _ => mData
  | .removed element => eraseFirst ConnData.connName (cstr element.mConnName) mData

/-- `updateChannelStatus` (`connectioninfomodel.cpp:77-90`). -/
def updateChannelStatus (status : ChannelStatus) (channelName : Str) (mData : List ConnData) :
    List ConnData :=
  modifyFirst ConnData.connName (cstr channelName) (fun found => { found with status }) mData

end ConnectionInfoModel

/-- `ChannelsListModel::ListItem` (`channelslistmodel.h:25-30`). -/
structure ListItem (V : Type) where
  name : Str
  message : Str
  status : ChannelStatus
  validator : Option V
  deriving DecidableEq, Repr

namespace ChannelsListModel

/-- The text of a channel without a report. -/
def notEstablished : Str := str "Connection not established yet"

variable (validators : Str → Option V)

/-- The validator of a connection (`channelslistmodel.cpp:20-25`), where `validators` gives that of a
plugin of the container. -/
def validator (connInfo : Option (PluginConnectionInfo i)) : Option V :=
  connInfo.bind fun connInfo => validators connInfo.getPluginId

def row (element : ConnectionHolder i) : ListItem V :=
  ⟨cstr element.mConnName, notEstablished, .undefined, validator validators element.mPluginConnInfo⟩

/-- `added`, `changed` and `removed` (`channelslistmodel.cpp:66-105`); `added` uses the plugin of the
connection without a look whether there is one. -/
def hear (mChannelNames : List (ListItem V)) :
    KeyedEvent (ConnectionHolder i) → Option (List (ListItem V))
  | .added element => element.mPluginConnInfo.map fun _ => mChannelNames ++ [row validators element]
  | .changed _ => some mChannelNames
  | .removed element => some (eraseFirst ListItem.name (cstr element.mConnName) mChannelNames)

/-- `updateChannelStatus` (`channelslistmodel.cpp:107-118`). -/
def updateChannelStatus (status : ChannelStatus) (channelName message : Str)
    (mChannelNames : List (ListItem V)) : List (ListItem V) :=
  modifyFirst ListItem.name (cstr channelName)
    (fun found => { found with status, message := cstr message }) mChannelNames

end ChannelsListModel

/-! ## A storage of contacts and its list -/

/-- The contact storage with the rows of its list. -/
structure ContactList where
  storage : KeyedList Contact.id
  mData : List ContactRow

namespace ContactList

variable (getAllElements : KeyedList Contact.id → List Contact)

/-- The list constructed over the stored contacts (`contactmodel.cpp:6-13` and `builders.cpp:57`), in
the order in which the storage gives them. -/
def construct (contacts : KeyedList Contact.id) : ContactList :=
  ⟨contacts, (getAllElements contacts).map ContactModel.row⟩

def next (s : ContactList) (event : KeyedEvent Contact) : ContactList :=
  if accepted : s.storage.Accepts event then
    ⟨s.storage.next event accepted, ContactModel.hear s.mData event⟩
  else s

/-- There is a row for each stored contact. -/
def IsCurrent (s : ContactList) : Prop :=
  s.mData.Perm (s.storage.elements.map ContactModel.row)

theorem IsCurrent.next {s : ContactList} (current : s.IsCurrent) (event : KeyedEvent Contact) :
    (s.next event).IsCurrent := by
  by_cases accepted : s.storage.Accepts event
  · rw [ContactList.next, dif_pos accepted, IsCurrent]
    have shown : ∀ x ∈ s.storage.elements, (ContactModel.row x).id = x.id := fun _ _ => rfl
    have distinct := KeyedList.distinct_map shown
    dsimp only
    cases event with
    | added element =>
      rw [KeyedList.map_added (f := ContactModel.row) accepted fun _ _ _ => rfl]
      exact current.append_right _
    | changed element =>
      have anew : (s.storage.next (.changed element) accepted).elements.map ContactModel.row =
          modifyFirst ContactRow.id element.id
            (fun found => { found with display := ContactModel.format element })
            (s.storage.elements.map ContactModel.row) :=
        KeyedList.map_changed shown accepted (fun _ _ same => congrArg (ContactRow.mk · _) same)
          fun _ _ _ => rfl
      rw [anew]
      exact modifyFirst_perm current distinct _ _
    | removed element =>
      rw [KeyedList.map_removed shown accepted fun _ _ _ => rfl]
      exact eraseFirst_perm current distinct _
  · rw [ContactList.next, dif_neg accepted]
    exact current

end ContactList

/-- The list of contacts always has the rows of one that is constructed anew, each once, whatever
the order is in which the storage enumerates the contacts. -/
theorem contact_list_current (getAllElements : KeyedList Contact.id → List Contact)
    (enumerates : ∀ contacts, (getAllElements contacts).Perm contacts.elements)
    (contacts : KeyedList Contact.id) (events : List (KeyedEvent Contact)) :
    let s := Run.after ContactList.next (.construct getAllElements contacts) events
    s.mData.Perm (ContactList.construct getAllElements s.storage).mData := by
  intro s
  have current : s.IsCurrent := by
    have start : (ContactList.construct getAllElements contacts).IsCurrent :=
      (enumerates contacts).map _
    exact Run.invariant_after (fun _ event current _ => current.next event) start
      (Run.along_of_forall (P := fun _ _ => True) (fun _ _ => trivial) _ events)
  exact current.trans ((enumerates s.storage).map _).symm

namespace Sample

/-- Two contacts, the second of which comes first in the order of the keys. -/
def contactEvents : List (KeyedEvent Contact) :=
  [.added ⟨str "mail", str "Bob", str "bob@home", str "b", []⟩,
    .added ⟨str "mail", str "Ann", str "ann@home", str "a", []⟩]

/-- The contacts in the order of their keys. -/
def byKey (contacts : KeyedList Contact.id) : List Contact :=
  contacts.elements.insertionSort fun first second => first.id ≤ second.id

end Sample

/-- A storage that enumerates its contacts in the order of the keys, and not of their addition. -/
theorem sample_contact_list_current :
    let s := Run.after ContactList.next (.construct Sample.byKey ⟨[], .nil⟩) Sample.contactEvents
    s.mData ≠ (ContactList.construct Sample.byKey s.storage).mData ∧
      s.mData.Perm (ContactList.construct Sample.byKey s.storage).mData :=
  ⟨by decide +kernel, contact_list_current Sample.byKey (fun _ => List.perm_insertionSort _ _)
    ⟨[], .nil⟩ Sample.contactEvents⟩

/-! ## A storage of connections and its lists -/

/-- The connection storage with the rows of its two lists; those of the channels are lost where a null
pointer is used. -/
structure ConnectionLists (V : Type) (i : Nat) where
  storage : KeyedList (ConnectionHolder.mConnName (i := i))
  mData : List ConnData
  mChannelNames : Option (List (ListItem V))

/-- An event of the storage, or a report about a channel. -/
inductive ConnectionListEvent (i : Nat) where
  | storage (event : KeyedEvent (ConnectionHolder i))
  | status (status : ChannelStatus) (channelName message : Str)

namespace ConnectionLists

variable (validators : Str → Option V)

/-- The lists constructed over the stored connections (`connectioninfomodel.cpp:7-16` and
`channelslistmodel.cpp:14-32`). -/
def construct (connections : KeyedList (ConnectionHolder.mConnName (i := i))) : ConnectionLists V i where
  storage := connections
  mData := connections.elements.map ConnectionInfoModel.row
  mChannelNames := some (connections.elements.map (ChannelsListModel.row validators))

def next (s : ConnectionLists V i) : ConnectionListEvent i → ConnectionLists V i
  | .storage event =>
    if accepted : s.storage.Accepts event then {
      storage := s.storage.next event accepted
      mData := ConnectionInfoModel.hear s.mData event
      mChannelNames := s.mChannelNames.bind fun rows => ChannelsListModel.hear validators rows event }
    else s
  | .status status channelName message =>
    { s with
      mData := ConnectionInfoModel.updateChannelStatus status channelName s.mData
      mChannelNames :=
        s.mChannelNames.map (ChannelsListModel.updateChannelStatus status channelName message) }

/-! ### What the rows show -/

/-- What an event reports of a connection; a new one is one without a report. -/
def reports (name : Str) (s : ConnectionLists V i) :
    ConnectionListEvent i → Option (Option (ChannelStatus × Str))
  | .storage (.added element) =>
    if element.mConnName = name ∧ s.storage.Accepts (.added element) then some none else none
  | .status status channelName message =>
    if cstr channelName = name then some (some (status, cstr message)) else none
  | _ => none

/-- With what plugin data an event adds the connection. -/
def adds (name : Str) (s : ConnectionLists V i) :
    ConnectionListEvent i → Option (Option (PluginConnectionInfo i))
  | .storage (.added element) =>
    if element.mConnName = name ∧ s.storage.Accepts (.added element) then
      some element.mPluginConnInfo
    else none
  | _ => none

variable (connections : KeyedList (ConnectionHolder.mConnName (i := i)))
  (events : List (ConnectionListEvent i)) (name : Str)

/-- The last report of a connection since it was added. -/
def lastReport : Option (ChannelStatus × Str) :=
  (Run.latest (next validators) (reports name) (construct validators connections) events).join

/-- The plugin data with which a connection was added, or stored before. -/
def addedInfo : Option (PluginConnectionInfo i) :=
  (Run.latest (next validators) (adds name) (construct validators connections) events).getD
    ((connections.elements.find? fun element => element.mConnName = name).bind (·.mPluginConnInfo))

/-- The row of a connection in the list of connections. -/
def connData : ConnData where
  connName := name
  status := ((lastReport validators connections events name).map Prod.fst).getD .undefined

/-- The row of a connection in the list of channels. -/
def listItem : ListItem V where
  name := name
  message := ((lastReport validators connections events name).map Prod.snd).getD
    ChannelsListModel.notEstablished
  status := ((lastReport validators connections events name).map Prod.fst).getD .undefined
  validator := ChannelsListModel.validator validators (addedInfo validators connections events name)

/-- A connection that is added has a name that is a C string, and a plugin. -/
def IsPlain (_ : ConnectionLists V i) : ConnectionListEvent i → Prop
  | .storage (.added element) => 0 ∉ element.mConnName ∧ element.mPluginConnInfo.isSome
  | _ => True

/-- The rows of a storage whose names are C strings, after some events. -/
structure IsCurrent (s : ConnectionLists V i) : Prop where
  clean : ∀ name ∈ s.storage.keys, 0 ∉ name
  mData : s.mData = s.storage.elements.map fun element =>
    connData validators connections events element.mConnName
  mChannelNames : s.mChannelNames = some (s.storage.elements.map fun element =>
    listItem validators connections events element.mConnName)

section

variable {validators connections events name} {event : ConnectionListEvent i}

theorem lastReport_concat : lastReport validators connections (events ++ [event]) name =
    ((reports name (Run.after (next validators) (construct validators connections) events)
      event).or (Run.latest (next validators) (reports name) (construct validators connections)
        events)).join := by
  rw [lastReport, Run.latest_concat]

theorem lastReport_of_unreported
    (unreported : reports name
      (Run.after (next validators) (construct validators connections) events) event = none) :
    lastReport validators connections (events ++ [event]) name =
      lastReport validators connections events name := by
  rw [lastReport_concat, unreported]
  rfl

theorem addedInfo_of_unadded
    (unadded : adds name
      (Run.after (next validators) (construct validators connections) events) event = none) :
    addedInfo validators connections (events ++ [event]) name =
      addedInfo validators connections events name := by
  rw [addedInfo, addedInfo, Run.latest_concat, unadded]
  rfl

variable (validators connections events event) in
/-- An event that neither adds a connection nor reports of it leaves its rows. -/
theorem rows_of_unreported
    (unreported : reports name
      (Run.after (next validators) (construct validators connections) events) event = none)
    (unadded : adds name
      (Run.after (next validators) (construct validators connections) events) event = none) :
    connData validators connections (events ++ [event]) name =
        connData validators connections events name ∧
      listItem validators connections (events ++ [event]) name =
        listItem validators connections events name := by
  rw [connData, connData, listItem, listItem, lastReport_of_unreported unreported,
    addedInfo_of_unadded unadded]
  exact ⟨rfl, rfl⟩

/-- The rows of a connection that the event adds. -/
theorem rows_of_added {element : ConnectionHolder i} (clean : 0 ∉ element.mConnName)
    (absent : element.mConnName ∉
      (Run.after (next validators) (construct validators connections) events).storage.keys) :
    connData validators connections (events ++ [.storage (.added element)]) element.mConnName =
        ConnectionInfoModel.row element ∧
      listItem validators connections (events ++ [.storage (.added element)]) element.mConnName =
        ChannelsListModel.row validators element := by
  have unreported : lastReport validators connections (events ++ [.storage (.added element)])
      element.mConnName = none := by
    rw [lastReport_concat, reports, if_pos ⟨rfl, absent⟩]
    rfl
  have info : addedInfo validators connections (events ++ [.storage (.added element)])
      element.mConnName = element.mPluginConnInfo := by
    rw [addedInfo, Run.latest_concat, adds, if_pos ⟨rfl, absent⟩]
    rfl
  rw [connData, listItem, unreported, info, ConnectionInfoModel.row, ChannelsListModel.row,
    cstr_of_notMem clean]
  exact ⟨rfl, rfl⟩

variable (validators connections events) in
/-- The rows of a connection that a report is about. -/
theorem rows_of_reported (status : ChannelStatus) (channelName message : Str) :
    connData validators connections (events ++ [.status status channelName message])
        (cstr channelName) =
      { connData validators connections events (cstr channelName) with status } ∧
    listItem validators connections (events ++ [.status status channelName message])
        (cstr channelName) =
      { listItem validators connections events (cstr channelName) with
        status, message := cstr message } := by
  have reported : lastReport validators connections (events ++ [.status status channelName message])
      (cstr channelName) = some (status, cstr message) := by
    rw [lastReport_concat, reports, if_pos rfl]
    rfl
  have info : addedInfo validators connections (events ++ [.status status channelName message])
      (cstr channelName) = addedInfo validators connections events (cstr channelName) :=
    addedInfo_of_unadded rfl
  rw [connData, listItem, reported, info]
  exact ⟨rfl, rfl⟩

/-- An event that is neither about a name in the storage nor changes the names leaves the rows. -/
theorem IsCurrent.of_unreported {s : ConnectionLists V i}
    (current : IsCurrent validators connections events s)
    (unreported : ∀ name ∈ s.storage.keys, reports name
      (Run.after (next validators) (construct validators connections) events) event = none)
    (unadded : ∀ name ∈ s.storage.keys, adds name
      (Run.after (next validators) (construct validators connections) events) event = none) :
    IsCurrent validators connections (events ++ [event]) s := by
  have same : ∀ element ∈ s.storage.elements, _ := fun element member =>
    rows_of_unreported validators connections events event (unreported _ (List.mem_map_of_mem member))
      (unadded _ (List.mem_map_of_mem member))
  refine ⟨current.clean, current.mData.trans ?_, current.mChannelNames.trans (congrArg some ?_)⟩
  · exact List.map_congr_left fun element member => (same element member).1.symm
  · exact List.map_congr_left fun element member => (same element member).2.symm

theorem map_name_replaced {R : Type} (element : ConnectionHolder i)
    (elements : List (ConnectionHolder i)) (row : Str → R) :
    (KeyedList.replaced ConnectionHolder.mConnName element elements).map (fun x => row x.mConnName) =
      elements.map fun x => row x.mConnName := by
  have same : (KeyedList.replaced ConnectionHolder.mConnName element elements).map
      ConnectionHolder.mConnName = elements.map ConnectionHolder.mConnName :=
    KeyedList.map_key_replaced element elements
  calc (KeyedList.replaced ConnectionHolder.mConnName element elements).map (fun x => row x.mConnName)
      = ((KeyedList.replaced ConnectionHolder.mConnName element elements).map
          ConnectionHolder.mConnName).map row := List.map_map.symm
    _ = (elements.map ConnectionHolder.mConnName).map row := by rw [same]
    _ = elements.map fun x => row x.mConnName := List.map_map

/-- One event. -/
theorem IsCurrent.next (current : IsCurrent validators connections events
      (Run.after (next validators) (construct validators connections) events))
    (plain : IsPlain (Run.after (next validators) (construct validators connections) events) event) :
    IsCurrent validators connections (events ++ [event]) (next validators
      (Run.after (next validators) (construct validators connections) events) event) := by
  cases event with
  | storage event =>
    by_cases accepted :
        (Run.after (next validators) (construct validators connections) events).storage.Accepts event
    · rw [ConnectionLists.next, dif_pos accepted]
      cases event with
      | added element =>
        obtain ⟨clean, plugin⟩ := plain
        obtain ⟨info, found⟩ := Option.isSome_iff_exists.mp plugin
        obtain ⟨newData, newItem⟩ := rows_of_added clean accepted
        have others (name : Str) (other : name ≠ element.mConnName) :=
          rows_of_unreported validators connections events (.storage (.added element))
            (if_neg fun same => other same.1.symm) (if_neg fun same => other same.1.symm)
        refine ⟨?_, ?_, ?_⟩
        · rw [KeyedList.keys_added]
          simp only [List.mem_append, List.mem_singleton]
          rintro name (member | rfl)
          · exact current.clean name member
          · exact clean
        · rw [KeyedList.map_added accepted fun x _ other => (others x.mConnName other).1.symm]
          rw [current.mData, newData]
          rfl
        · rw [KeyedList.map_added accepted fun x _ other => (others x.mConnName other).2.symm]
          rw [current.mChannelNames, newItem, Option.bind_some, ChannelsListModel.hear, found]
          rfl
      | changed element =>
        refine IsCurrent.of_unreported ⟨?_, ?_, ?_⟩ (fun _ _ => rfl) fun _ _ => rfl
        · rw [KeyedList.keys_changed]
          exact current.clean
        · exact current.mData.trans (map_name_replaced element _ _).symm
        · rw [current.mChannelNames]
          exact congrArg some (map_name_replaced element _ _).symm
      | removed element =>
        have clean : cstr element.mConnName = element.mConnName :=
          cstr_of_notMem (current.clean _ accepted)
        refine IsCurrent.of_unreported ⟨?_, ?_, ?_⟩ (fun _ _ => rfl) fun _ _ => rfl
        · exact fun name member => current.clean name (KeyedList.keys_removed accepted member)
        · have shown : ∀ x ∈ (Run.after (ConnectionLists.next validators)
              (construct validators connections) events).storage.elements,
              (connData validators connections events x.mConnName).connName = x.mConnName :=
            fun _ _ => rfl
          rw [current.mData, ConnectionInfoModel.hear, clean]
          exact (KeyedList.map_removed shown accepted fun _ _ _ => rfl).symm
        · have shown : ∀ x ∈ (Run.after (ConnectionLists.next validators)
              (construct validators connections) events).storage.elements,
              (listItem validators connections events x.mConnName).name = x.mConnName :=
            fun _ _ => rfl
          rw [current.mChannelNames, Option.bind_some, ChannelsListModel.hear, clean]
          exact congrArg some (KeyedList.map_removed shown accepted fun _ _ _ => rfl).symm
    · rw [ConnectionLists.next, dif_neg accepted]
      cases event with
      | added element =>
        have member := not_not.mp accepted
        apply current.of_unreported
        · intro name _
          rw [reports, if_neg]
          rintro ⟨rfl, absent⟩
          exact absent member
        · intro name _
          rw [adds, if_neg]
          rintro ⟨rfl, absent⟩
          exact absent member
      | changed element => exact current.of_unreported (fun _ _ => rfl) fun _ _ => rfl
      | removed element => exact current.of_unreported (fun _ _ => rfl) fun _ _ => rfl
  | status status channelName message =>
    have others (name : Str) (other : name ≠ cstr channelName) :=
      rows_of_unreported validators connections events (.status status channelName message)
        (if_neg fun same => other same.symm) rfl
    obtain ⟨data, item⟩ := rows_of_reported validators connections events status channelName message
    refine ⟨current.clean, ?_, ?_⟩
    · rw [ConnectionLists.next, current.mData]
      apply KeyedList.map_modifyFirst (fun _ _ => rfl)
      · rintro x _ same
        rw [← same] at data
        exact data.symm
      · exact fun x _ other => (others x.mConnName other).1.symm
    · rw [ConnectionLists.next, current.mChannelNames]
      apply congrArg some
      apply KeyedList.map_modifyFirst (fun _ _ => rfl)
      · rintro x _ same
        rw [← same] at item
        exact item.symm
      · exact fun x _ other => (others x.mConnName other).2.symm

theorem isCurrent_construct (clean : ∀ name ∈ connections.keys, 0 ∉ name) :
    IsCurrent validators connections [] (construct validators connections) := by
  have names : ∀ element ∈ connections.elements, cstr element.mConnName = element.mConnName :=
    fun element member => cstr_of_notMem (clean _ (List.mem_map_of_mem member))
  refine ⟨clean, ?_, congrArg some ?_⟩
  · apply List.map_congr_left
    intro element member
    rw [ConnectionInfoModel.row, names element member]
    rfl
  · apply List.map_congr_left
    intro element member
    have info : addedInfo validators connections [] element.mConnName = element.mPluginConnInfo := by
      show (List.find? _ _).bind _ = _
      rw [KeyedList.find?_key member]
      rfl
    rw [ChannelsListModel.row, names element member, listItem, info]
    rfl

end

end ConnectionLists

/-- The lists have a row for each stored connection in the order of their addition, with what was
reported of it last since it was added. The address validator of a row is that of the plugin with
which the connection was added, whatever its plugin is now. -/
theorem connection_lists_current (validators : Str → Option V)
    (connections : KeyedList (ConnectionHolder.mConnName (i := i)))
    (clean : ∀ name ∈ connections.keys, 0 ∉ name) (events : List (ConnectionListEvent i))
    (plain : Run.Along (ConnectionLists.next validators) ConnectionLists.IsPlain
      (.construct validators connections) events) :
    let s := Run.after (ConnectionLists.next validators) (.construct validators connections) events
    s.mData = s.storage.elements.map (fun element =>
      ConnectionLists.connData validators connections events element.mConnName) ∧
    s.mChannelNames = some (s.storage.elements.map fun element =>
      ConnectionLists.listItem validators connections events element.mConnName) := by
  intro s
  have start : ConnectionLists.IsCurrent validators connections []
      (.construct validators connections) := ConnectionLists.isCurrent_construct clean
  have current := Run.history_after (I := ConnectionLists.IsCurrent validators connections) start
    (fun _ _ current plain => current.next plain) plain
  exact ⟨current.mData, current.mChannelNames⟩

namespace Sample

/-- A stored connection of Gmail. -/
def storedConnection : ConnectionHolder 32 := ⟨str "mail", some (.gmail ⟨str "me@mail", str "T"⟩)⟩

def storedConnections : KeyedList (ConnectionHolder.mConnName (i := 32)) := ⟨[storedConnection], by decide⟩

/-- It is connected, another one is added, and it becomes one of VK. -/
def listEvents : List (ConnectionListEvent 32) :=
  [.status .connected (str "mail") [], .storage (.added ⟨str "chat", some (.vk ⟨[], []⟩)⟩),
    .storage (.changed ⟨str "mail", some (.vk ⟨[], []⟩)⟩)]

end Sample

/-- The validator of the changed connection is still that of Gmail. -/
theorem sample_connection_lists_current :
    let s := Run.after (ConnectionLists.next some) (.construct some Sample.storedConnections)
      Sample.listEvents
    s.mData = s.storage.elements.map (fun element =>
      ConnectionLists.connData some Sample.storedConnections Sample.listEvents element.mConnName) ∧
    s.mChannelNames = some (s.storage.elements.map fun element =>
      ConnectionLists.listItem some Sample.storedConnections Sample.listEvents element.mConnName) := by
  apply connection_lists_current some Sample.storedConnections (by decide) Sample.listEvents
  exact ⟨trivial, ⟨by decide, rfl⟩, trivial, trivial⟩

end SecureDialogues
