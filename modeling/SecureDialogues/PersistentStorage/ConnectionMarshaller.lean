import SecureDialogues.Lib.Table
import SecureDialogues.PersistentStorage.StoreHelpers

/-!
# The stored connections

`messages/src/persistent_storage/connectionmarshaller.cpp` and the serializers of the three plugins
under `plugins`. The host writes the name of the connection and the id of its plugin, and the plugin
writes the rest behind them.
-/

namespace SecureDialogues

open Text Memory

variable {b w d i : Nat}

/-! ## The connections of the plugins -/

/-- `SmtpConnectionInfo` (`smtpconnectioninfo.h:23-33`). -/
structure SmtpConnectionInfo (i : Nat) where
  userName : Str
  password : Str
  tlsUsed : Bool
  from_ : Str
  smtpAddr : Str
  smtpPort : BitVec i
  imapAddr : Str
  imapPort : BitVec i
  deriving DecidableEq, Repr

/-- `GmailConnectionInfo` (`gmailconnectioninfo.h:16-18`). -/
structure GmailConnectionInfo where
  email : Str
  accessToken : Str
  deriving DecidableEq, Repr

/-- `VkConnectionInfo` (`vkconnectioninfo.h:16-18`). -/
structure VkConnectionInfo where
  vkId : Str
  accessToken : Str
  deriving DecidableEq, Repr

/-- What implements `PluginConnectionInfo` in the plugins. -/
inductive PluginConnectionInfo (i : Nat) where
  | smtp (conn : SmtpConnectionInfo i)
  | gmail (conn : GmailConnectionInfo)
  | vk (conn : VkConnectionInfo)
  deriving DecidableEq, Repr

/-- The plugins (`smtp-plugin`, `gmail-plugin`, `vk-plugin`). -/
inductive Plugin where
  | smtp
  | gmail
  | vk
  deriving DecidableEq, Repr

/-- `PluginInterface::getId`, the text that each facade returns. -/
def Plugin.getId : Plugin → Str
  | .smtp => str "467ecc7a-66c9-11ea-9db3-2c56dc9baedc"
  | .gmail => str "3ccacfb5-b8be-42da-a9c8-3098e68dd76d"
  | .vk => str "3c6594e0-972f-456b-9eea-ef8fcb8f289c"

theorem Plugin.getId_inj {plugin plugin' : Plugin} (same : plugin.getId = plugin'.getId) :
    plugin = plugin' := by
  revert same
  cases plugin <;> cases plugin' <;> decide

/-- The plugin of a connection. -/
def PluginConnectionInfo.plugin : PluginConnectionInfo i → Plugin
  | .smtp _ => .smtp
  | .gmail _ => .gmail
  | .vk _ => .vk

/-- `PluginConnectionInfo::getPluginId`, the same text as the plugin's. -/
def PluginConnectionInfo.getPluginId (connInfo : PluginConnectionInfo i) : Str :=
  connInfo.plugin.getId

/-- What stands in the members that a default constructor leaves without a value. -/
structure Indeterminate (i : Nat) where
  tlsUsed : Bool
  smtpPort : BitVec i
  imapPort : BitVec i

/-- `PluginInterface::makeConnInfo` (`plugininterface.cpp:46-50`), a default constructed
connection. -/
def Plugin.makeConnInfo (rest : Indeterminate i) : Plugin → PluginConnectionInfo i
  | .smtp => .smtp ⟨[], [], rest.tlsUsed, [], [], rest.smtpPort, [], rest.imapPort⟩
  | .gmail => .gmail ⟨[], []⟩
  | .vk => .vk ⟨[], []⟩

theorem Plugin.plugin_makeConnInfo (plugin : Plugin) (rest : Indeterminate i) :
    (plugin.makeConnInfo rest).plugin = plugin := by
  cases plugin <;> rfl

/-! ## The serializers -/

variable (P : Machine b w d i)

namespace SmtpConnectionSerializer

/-- The sum of `get_size` (`smtpconnectionserializer.cpp:5-26`), in its order. -/
def total (conn : SmtpConnectionInfo i) : Nat :=
  sizeofStr P conn.password + P.bool.size + sizeofStr P conn.from_ + sizeofStr P conn.imapAddr +
    P.int.size + sizeofStr P conn.smtpAddr + P.int.size + sizeofStr P conn.userName

/-- `SmtpConnectionSerializer::serialize` (`smtpconnectionserializer.cpp:28-48`). -/
def serialize (conn : SmtpConnectionInfo i) : Writer Unit := do
  saveStr P conn.userName
  saveStr P conn.password
  storeSimpleType P.bool conn.tlsUsed
  saveStr P conn.from_
  saveStr P conn.imapAddr
  storeSimpleType P.int conn.imapPort
  saveStr P conn.smtpAddr
  storeSimpleType P.int conn.smtpPort

/-- `SmtpConnectionSerializer::deserialize` (`smtpconnectionserializer.cpp:50-70`). -/
def deserialize (conn : SmtpConnectionInfo i) : Reader (SmtpConnectionInfo i) := do
  let userName ← restoreStr P conn.userName
  let password ← restoreStr P conn.password
  let tlsUsed ← restoreSimpleType P.bool
  let from_ ← restoreStr P conn.from_
  let imapAddr ← restoreStr P conn.imapAddr
  let imapPort ← restoreSimpleType P.int
  let smtpAddr ← restoreStr P conn.smtpAddr
  let smtpPort ← restoreSimpleType P.int
  return ⟨userName, password, tlsUsed, from_, smtpAddr, smtpPort, imapAddr, imapPort⟩

end SmtpConnectionSerializer

/-- The two strings of a connection that has nothing but an account and a token. -/
def tokenTotal (account accessToken : Str) : Nat := sizeofStr P account + sizeofStr P accessToken

def serializeToken (account accessToken : Str) : Writer Unit := do
  saveStr P account
  saveStr P accessToken

def deserializeToken (account accessToken : Str) : Reader (Str × Str) := do
  let account ← restoreStr P account
  let accessToken ← restoreStr P accessToken
  return (account, accessToken)

namespace Plugin

/-- `get_size` of the plugin's serializer before `uint32_t` cuts it
(`smtpconnectionserializer.cpp:5-26`, `gmailconnectionserializer.cpp:5-16`,
`vkconnectionserializer.cpp:4-15`); 0 for a connection of another plugin. -/
def total : Plugin → PluginConnectionInfo i → Nat
  | .smtp, .smtp conn => SmtpConnectionSerializer.total P conn
  | .gmail, .gmail conn => tokenTotal P conn.email conn.accessToken
  | .vk, .vk conn => tokenTotal P conn.vkId conn.accessToken
  | _, _ => 0

/-- `get_size` of the plugin's serializer. -/
def get_size (plugin : Plugin) (connInfo : PluginConnectionInfo i) : BitVec 32 :=
  BitVec.ofNat 32 (plugin.total P connInfo)

/-- `serialize` of the plugin's serializer (`smtpconnectionserializer.cpp:28-48`,
`gmailconnectionserializer.cpp:18-29`, `vkconnectionserializer.cpp:17-28`). -/
def serialize : Plugin → PluginConnectionInfo i → Writer Bool
  | .smtp, .smtp conn => do
    SmtpConnectionSerializer.serialize P conn
    return true
  | .gmail, .gmail conn => do
    serializeToken P conn.email conn.accessToken
    return true
  | .vk, .vk conn => do
    serializeToken P conn.vkId conn.accessToken
    return true
  | _, _ => return false

/-- `deserialize` of the plugin's serializer (`smtpconnectionserializer.cpp:50-70`,
`gmailconnectionserializer.cpp:31-43`, `vkconnectionserializer.cpp:30-41`): the connection
afterwards. -/
def deserialize : Plugin → PluginConnectionInfo i → Reader (PluginConnectionInfo i)
  | .smtp, .smtp conn => .smtp <$> SmtpConnectionSerializer.deserialize P conn
  | .gmail, .gmail conn => (fun read => .gmail ⟨read.1, read.2⟩) <$>
    deserializeToken P conn.email conn.accessToken
  | .vk, .vk conn => (fun read => .vk ⟨read.1, read.2⟩) <$>
    deserializeToken P conn.vkId conn.accessToken
  | _, connInfo => return connInfo

end Plugin

/-! ## The payload of the plugins -/

namespace SmtpConnectionSerializer

/-- The layout of a mail account. -/
def bytes (P : Machine b w d i) (conn : SmtpConnectionInfo i) : Str :=
  strBytes P conn.userName ++ (strBytes P conn.password ++ (P.bool.toBytes conn.tlsUsed ++
    (strBytes P conn.from_ ++ (strBytes P conn.imapAddr ++ (P.int.toBytes conn.imapPort ++
      (strBytes P conn.smtpAddr ++ P.int.toBytes conn.smtpPort))))))

/-- The order in which `get_size` adds the fields up does not matter. -/
theorem length_bytes (conn : SmtpConnectionInfo i) : (bytes P conn).length = total P conn := by
  simp only [bytes, total, List.length_append, length_strBytes, Layout.length_toBytes]
  omega

theorem writes_serialize (conn : SmtpConnectionInfo i) :
    Writes (serialize P conn) (bytes P conn) :=
  (writes_saveStr P _).seq ((writes_saveStr P _).seq ((writes_storeSimpleType _ _).seq
    ((writes_saveStr P _).seq ((writes_saveStr P _).seq ((writes_storeSimpleType _ _).seq
      ((writes_saveStr P _).seq (writes_storeSimpleType _ _)))))))

/-- A connection without texts takes on every field that was written. -/
theorem reads_deserialize {conn : SmtpConnectionInfo i} {size : Nat}
    (part : total P conn ≤ size) (small : size < 2 ^ 32) (rest : Indeterminate i) :
    Reads (deserialize P ⟨[], [], rest.tlsUsed, [], [], rest.smtpPort, [], rest.imapPort⟩)
      (bytes P conn) conn := by
  have restores := reads_restoreStr P
  have field (str : Str) (inside : sizeofStr P str ≤ total P conn) :=
    restores.reads str (inside.trans part) small
  have userName := field conn.userName (by unfold total; omega)
  have password := field conn.password (by unfold total; omega)
  have from_ := field conn.from_ (by unfold total; omega)
  have imapAddr := field conn.imapAddr (by unfold total; omega)
  have smtpAddr := field conn.smtpAddr (by unfold total; omega)
  have smtpPort := (reads_restoreSimpleType P.int conn.smtpPort).map fun smtpPort =>
    ({ conn with smtpPort := smtpPort } : SmtpConnectionInfo i)
  exact userName.bind (password.bind ((reads_restoreSimpleType _ _).bind (from_.bind
    (imapAddr.bind ((reads_restoreSimpleType _ _).bind (smtpAddr.bind smtpPort))))))

end SmtpConnectionSerializer

theorem writes_serializeToken (account accessToken : Str) :
    Writes (serializeToken P account accessToken)
      (strBytes P account ++ strBytes P accessToken) :=
  (writes_saveStr P _).seq (writes_saveStr P _)

theorem reads_deserializeToken {account accessToken : Str} {size : Nat}
    (part : tokenTotal P account accessToken ≤ size) (small : size < 2 ^ 32) :
    Reads (deserializeToken P [] []) (strBytes P account ++ strBytes P accessToken)
      (account, accessToken) := by
  have restores := reads_restoreStr P
  unfold tokenTotal at part
  have first := restores.reads account (show _ ≤ size by omega) small
  have second := restores.reads accessToken (show _ ≤ size by omega) small
  exact first.bind (second.map _)

namespace PluginConnectionInfo

/-- The layout of a connection. -/
def bytes (P : Machine b w d i) : PluginConnectionInfo i → Str
  | .smtp conn => SmtpConnectionSerializer.bytes P conn
  | .gmail conn => strBytes P conn.email ++ strBytes P conn.accessToken
  | .vk conn => strBytes P conn.vkId ++ strBytes P conn.accessToken

variable (connInfo : PluginConnectionInfo i)

theorem length_bytes : (connInfo.bytes P).length = connInfo.plugin.total P connInfo := by
  cases connInfo with
  | smtp conn => exact SmtpConnectionSerializer.length_bytes P conn
  | gmail conn => simp [bytes, plugin, Plugin.total, tokenTotal]
  | vk conn => simp [bytes, plugin, Plugin.total, tokenTotal]

theorem writes_serialize : Writes (connInfo.plugin.serialize P connInfo) (connInfo.bytes P) := by
  have done {m : Writer Unit} {bytes : Str} (writes : Writes m bytes) :
      Writes (m >>= fun _ => pure true) bytes := by
    have both := writes.seq (n := fun _ => pure true) (Writes.pure true)
    rwa [List.append_nil] at both
  cases connInfo with
  | smtp conn => exact done (SmtpConnectionSerializer.writes_serialize P conn)
  | gmail conn => exact done (writes_serializeToken P _ _)
  | vk conn => exact done (writes_serializeToken P _ _)

/-- The plugin that wrote a connection reads it back into a new one. -/
theorem reads_deserialize (rest : Indeterminate i) {size : Nat}
    (part : connInfo.plugin.total P connInfo ≤ size) (small : size < 2 ^ 32) :
    Reads (connInfo.plugin.deserialize P (connInfo.plugin.makeConnInfo rest)) (connInfo.bytes P)
      connInfo := by
  cases connInfo with
  | smtp conn => exact (SmtpConnectionSerializer.reads_deserialize P part small rest).map _
  | gmail conn => exact (reads_deserializeToken P part small).map fun read =>
    PluginConnectionInfo.gmail ⟨read.1, read.2⟩
  | vk conn => exact (reads_deserializeToken P part small).map fun read =>
    PluginConnectionInfo.vk ⟨read.1, read.2⟩

end PluginConnectionInfo

/-! ## The host -/

/-- `PluginsContainer` (`pluginscontainer.h:37-53`): every plugin stands under its own id. -/
structure PluginsContainer where
  mPlugins : Table Plugin
  keyed : ∀ (id : Str) (plugin : Plugin), mPlugins[id]? = some plugin → plugin.getId = id

namespace PluginsContainer

def empty : PluginsContainer := ⟨∅, by simp⟩

/-- `PluginsContainer::add` (`pluginscontainer.cpp:4-7`). -/
def add (container : PluginsContainer) (plugin : Plugin) : PluginsContainer where
  mPlugins := container.mPlugins.insertIfNew plugin.getId plugin
  keyed := by
    intro id other found
    rw [getElem?_insertIfNew] at found
    split at found
    · rename_i fresh
      cases found
      exact fresh.1
    · exact container.keyed id other found

/-- `PluginsContainer::get` (`pluginscontainer.cpp:9-16`). -/
def get (container : PluginsContainer) (id : Str) : Option Plugin := container.mPlugins[id]?

theorem getId_of_get {container : PluginsContainer} {id : Str} {plugin : Plugin}
    (found : container.get id = some plugin) : plugin.getId = id :=
  container.keyed id plugin found

end PluginsContainer

/-- `ConnectionHolder` (`connectionholder.h:23-26`); no connection stands for the null pointer. -/
structure ConnectionHolder (i : Nat) where
  mConnName : Str
  mPluginConnInfo : Option (PluginConnectionInfo i)
  deriving DecidableEq, Repr

namespace ConnectionMarshaller

variable (container : PluginsContainer) (restore_str : Reader Str) (save_str : Str → Writer Unit)

/-- `ConnectionMarshaller::restore` (`connectionmarshaller.cpp:26-37`). -/
def restore (rest : Indeterminate i) (elem : ConnectionHolder i) : Reader (ConnectionHolder i) := do
  let name ← restore_str
  let pluginId ← restore_str
  let elem := { elem with mConnName := name }
  match container.get pluginId with
  | some plugin => do
    let connInfo ← plugin.deserialize P (plugin.makeConnInfo rest)
    return { elem with mPluginConnInfo := some connInfo }
  | none => return elem

/-- `ConnectionMarshaller::size` (`connectionmarshaller.cpp:39-50`); no size stands for the
dereferenced null pointer. -/
def size (element : ConnectionHolder i) : Option (BitVec 32) := do
  let connInfo ← element.mPluginConnInfo
  let pluginId := connInfo.getPluginId
  let size := BitVec.ofNat 32 (sizeofStr P pluginId) +
    BitVec.ofNat 32 (sizeofStr P element.mConnName)
  match container.get pluginId with
  | some plugin => return size + plugin.get_size P connInfo
  | none => return size

/-- `ConnectionMarshaller::store` (`connectionmarshaller.cpp:52-60`), likewise. -/
def store (elem : ConnectionHolder i) : Option (Writer Unit) := do
  let connInfo ← elem.mPluginConnInfo
  let pluginId := connInfo.getPluginId
  return do
    save_str elem.mConnName
    save_str pluginId
    match container.get pluginId with
    | some plugin => discard (plugin.serialize P connInfo)
    | none => return ()

/-- All bytes of a connection, as many as there are. -/
def total (connName : Str) (connInfo : PluginConnectionInfo i) : Nat :=
  sizeofStr P connInfo.getPluginId + sizeofStr P connName + connInfo.plugin.total P connInfo

/-- The store keeps the connection. -/
def Keeps (rest : Indeterminate i) (element : ConnectionHolder i) : Prop :=
  ∃ size' store', size P container element = some size' ∧
    store P container save_str element = some store' ∧
    Survives size' store' (restore P container restore_str rest) element

/-- The layout of a connection under its name. -/
def bytes (connName : Str) (connInfo : PluginConnectionInfo i) : Str :=
  strBytes P connName ++ (strBytes P connInfo.getPluginId ++ connInfo.bytes P)

theorem length_bytes (connName : Str) (connInfo : PluginConnectionInfo i) :
    (bytes P connName connInfo).length = total P connName connInfo := by
  simp only [bytes, total, List.length_append, length_strBytes, connInfo.length_bytes]
  omega

variable {P} {container} {restore_str} {save_str} {connName : Str}
  {connInfo : PluginConnectionInfo i}

/-- What a container returns under the id of a connection is the connection's plugin. -/
theorem get_getPluginId {plugin : Plugin} (found : container.get connInfo.getPluginId = some plugin) :
    plugin = connInfo.plugin :=
  Plugin.getId_inj (PluginsContainer.getId_of_get found)

theorem size_eq (present : container.get connInfo.getPluginId = some connInfo.plugin) :
    size P container ⟨connName, some connInfo⟩ =
      some (BitVec.ofNat 32 (total P connName connInfo)) := by
  simp only [size, Option.bind_eq_bind, Option.bind_some, present, total, BitVec.ofNat_add,
    Plugin.get_size]
  rfl

theorem writes_store (connName : Str) (saves : SavesStr P save_str)
    (present : container.get connInfo.getPluginId = some connInfo.plugin) :
    ∃ store', store P container save_str ⟨connName, some connInfo⟩ = some store' ∧
      Writes store' (bytes P connName connInfo) := by
  refine ⟨_, rfl, (saves connName).seq ((saves connInfo.getPluginId).seq ?_)⟩
  rw [present]
  exact connInfo.writes_serialize P

theorem reads_restore (restores : RestoresStr P restore_str)
    (present : container.get connInfo.getPluginId = some connInfo.plugin)
    (small : total P connName connInfo < 2 ^ 32) (rest : Indeterminate i)
    (old : ConnectionHolder i) :
    Reads (restore P container restore_str rest old) (bytes P connName connInfo)
      ⟨connName, some connInfo⟩ := by
  have name := restores.reads connName (by unfold total; omega) small
  have pluginId := restores.reads connInfo.getPluginId (by unfold total; omega) small
  have payload := (connInfo.reads_deserialize P rest (by unfold total; omega) small).map
    fun connInfo => (⟨connName, some connInfo⟩ : ConnectionHolder i)
  refine name.bind (pluginId.bind ?_)
  rw [present]
  exact payload

theorem keeps_of_small (restores : RestoresStr P restore_str) (saves : SavesStr P save_str)
    (present : container.get connInfo.getPluginId = some connInfo.plugin)
    (small : total P connName connInfo < 2 ^ 32) (rest : Indeterminate i) :
    Keeps P container restore_str save_str rest ⟨connName, some connInfo⟩ := by
  obtain ⟨store', stores, writes⟩ := writes_store connName saves present
  refine ⟨_, store', size_eq present, stores, ?_⟩
  exact survives_of_reads (length_bytes P connName connInfo) small writes
    (reads_restore restores present small rest)

theorem not_keeps_of_large (saves : SavesStr P save_str)
    (present : container.get connInfo.getPluginId = some connInfo.plugin)
    (large : 2 ^ 32 ≤ total P connName connInfo) (rest : Indeterminate i) :
    ¬ Keeps P container restore_str save_str rest ⟨connName, some connInfo⟩ := by
  intro ⟨size', store', _, stores', survives⟩
  obtain ⟨store'', stores, writes⟩ := writes_store connName saves present
  rw [stores] at stores'
  cases stores'
  rw [← length_bytes] at large
  exact not_survives_of_large writes large survives

end ConnectionMarshaller

open ConnectionMarshaller

/-- What the database stores of a connection comes back under the same name, from the same plugin
and with every field, as long as a `uint32_t` tells its size. -/
theorem stored_connections_survive {P : Machine b w d i} {container : PluginsContainer}
    {restore_str : Reader Str} {save_str : Str → Writer Unit}
    (restores : RestoresStr P restore_str) (saves : SavesStr P save_str) (rest : Indeterminate i)
    (connName : Str) (connInfo : PluginConnectionInfo i) {plugin : Plugin}
    (found : container.get connInfo.getPluginId = some plugin)
    (small : total P connName connInfo < 2 ^ 32) :
    Keeps P container restore_str save_str rest ⟨connName, some connInfo⟩ := by
  have same := get_getPluginId found
  rw [same] at found
  exact keeps_of_small restores saves found small rest

/-- A mail account in a program that has all three plugins. -/
theorem stored_connections_survive_mail :
    Keeps littleEndianMachine (((PluginsContainer.empty.add .smtp).add .gmail).add .vk)
      (restoreStr littleEndianMachine []) (saveStr littleEndianMachine) ⟨true, 7, 7⟩
      ⟨str "home", some (.smtp ⟨str "ann", str "secret", false, str "ann@home", str "smtp.home", 587,
        str "imap.home", 993⟩)⟩ :=
  stored_connections_survive (reads_restoreStr _) (writes_saveStr _) _ _ _
    (show _ = some .smtp by decide +kernel) (by decide +kernel)

/-- A connection of four gigabytes asks for less than it writes. -/
theorem large_connection_does_not_survive :
    ¬ ∀ (connName : Str) (connInfo : PluginConnectionInfo 32),
      (((PluginsContainer.empty.add .smtp).add .gmail).add .vk).get connInfo.getPluginId ≠ none →
      Keeps littleEndianMachine (((PluginsContainer.empty.add .smtp).add .gmail).add .vk)
        (restoreStr littleEndianMachine []) (saveStr littleEndianMachine) ⟨true, 7, 7⟩
        ⟨connName, some connInfo⟩ := by
  intro survives
  have present : (((PluginsContainer.empty.add .smtp).add .gmail).add .vk).get
      (Plugin.getId .gmail) = some .gmail := by decide +kernel
  obtain ⟨email, length⟩ : ∃ email : Str, email.length = 2 ^ 32 :=
    ⟨List.replicate (2 ^ 32) 0, List.length_replicate⟩
  have large : 2 ^ 32 ≤ total littleEndianMachine []
      (.gmail ⟨email, []⟩ : PluginConnectionInfo 32) := by
    simp only [total, PluginConnectionInfo.plugin, Plugin.total, tokenTotal, sizeofStr, length]
    omega
  refine not_keeps_of_large (writes_saveStr _) present large _ (survives _ _ ?_)
  intro missing
  cases present.symm.trans missing

end SecureDialogues
