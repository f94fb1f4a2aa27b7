import SecureDialogues.PersistentStorage.ConnectionMarshaller
import SecureDialogues.Plugins.GmailOauth

/-!
# The fields of the plugins

Each plugin has a widget with the data of a connection (`smtpconnectionwidget.cpp`,
`gmailconnectionwidget.cpp` and `vkconnectionwidget.cpp` under `plugins`), which fills a connection of
its own kind and leaves one of another plugin alone. The texts of errors are taken to be read before
their memory is used again.
-/

namespace SecureDialogues

open Text Effect

variable {i : Nat}

/-- What Qt makes of texts. -/
structure QtTexts (i : Nat) where
  /-- `QString::trimmed`. -/
  trimmed : Str → Str
  /-- `QString::toInt`, if it is a number. -/
  toInt : Str → Option (BitVec i)
  /-- `QString::number`. -/
  number : BitVec i → Str
  /-- `QRegExp::indexIn` finds the pattern of an address (`smtpconnectionwidget.cpp:35-36`). -/
  hasAddress : Str → Bool
  /-- `user_id` and `access_token` of the fragment of a valid `QUrl`, if it has both. -/
  oauthItems : Str → Option (Str × Str)

/-- The outside world of a filling: the service of Google and the texts of exceptions. -/
structure FillWorld where
  google : GmailWorld
  what : ApiError → Str

/-- `ex.what()`. No process goes on after a termination. -/
def FillWorld.text (world : FillWorld) : Fault ApiError → Str
  | .thrown e => world.what e
  | .terminated => str "terminated"

/-- Texts are escaped as libcurl documents, and every exception has a text. -/
structure FillWorld.IsUsual (world : FillWorld) : Prop where
  escapes : world.google.curl.Escapes
  named : ∀ e, world.what e ≠ []

/-- The fields of `SmtpConnectionWidget`. -/
structure SmtpFields where
  emailLogin : Str
  emailPass : Str
  emailFrom : Str
  smtpUrl : Str
  smtpPort : Str
  imapUrl : Str
  imapPort : Str
  useTls : Bool
  deriving DecidableEq, Repr

/-- The fields of `GmailConnectionWidget`. -/
structure GmailFields where
  login : Str
  pass : Str
  deriving DecidableEq, Repr

/-- The fields of the three widgets; that of VK has one. -/
structure PluginFields where
  smtp : SmtpFields
  gmail : GmailFields
  vkOauthUrl : Str
  deriving DecidableEq, Repr

/-- What a filling leaves: an error text, empty for a null pointer, the connection, and what libcurl
was used for. -/
structure Filled (i : Nat) where
  error : Str
  conninfo : Option (PluginConnectionInfo i)
  uses : List GmailUse

variable (qt : QtTexts i)

/-! ## The widgets -/

namespace SmtpConnectionWidget

/-- `SmtpConnectionWidget::setConnectionInfo` (`smtpconnectionwidget.cpp:15-29`). -/
def setConnectionInfo (fields : SmtpFields) : PluginConnectionInfo i → SmtpFields
  | .smtp conn =>
    { fields with
      emailLogin := cstr conn.userName
      emailFrom := cstr conn.from_
      smtpUrl := cstr conn.smtpAddr
      imapUrl := cstr conn.imapAddr
      smtpPort := qt.number conn.smtpPort
      imapPort := qt.number conn.imapPort
      useTls := conn.tlsUsed }
  | _ => fields

/-- The checks of `fillConnectionInfo` (`smtpconnectionwidget.cpp:37-74`), of which the first that
fails has its text returned. -/
def checks (fields : SmtpFields) : List (Str × Bool) :=
  [(str "Field 'Login' should be completed", qt.trimmed fields.emailLogin ≠ []),
    (str "Field 'Password' should be completed", qt.trimmed fields.emailPass ≠ []),
    (str "Field 'From' empty or contains wrong format",
      qt.trimmed fields.emailFrom ≠ [] ∧ qt.hasAddress (qt.trimmed fields.emailFrom)),
    (str "'Address of SMTP server' empty", qt.trimmed fields.smtpUrl ≠ []),
    (str "Field 'Port of SMTP server' empty or contains wrong format",
      qt.trimmed fields.smtpPort ≠ [] ∧ (qt.toInt (qt.trimmed fields.smtpPort)).isSome),
    (str "'Address of IMAP server' empty", qt.trimmed fields.imapUrl ≠ []),
    (str "'Port of IMAP server' empty or contains wrong format",
      qt.trimmed fields.imapPort ≠ [] ∧ (qt.toInt (qt.trimmed fields.imapPort)).isSome)]

/-- What the fields say. -/
def conn (fields : SmtpFields) : SmtpConnectionInfo i where
  userName := qt.trimmed fields.emailLogin
  password := qt.trimmed fields.emailPass
  tlsUsed := fields.useTls
  from_ := qt.trimmed fields.emailFrom
  smtpAddr := qt.trimmed fields.smtpUrl
  smtpPort := (qt.toInt (qt.trimmed fields.smtpPort)).getD 0
  imapAddr := qt.trimmed fields.imapUrl
  imapPort := (qt.toInt (qt.trimmed fields.imapPort)).getD 0

/-- `SmtpConnectionWidget::fillConnectionInfo` (`smtpconnectionwidget.cpp:31-95`). -/
def fillConnectionInfo (fields : SmtpFields) (conninfo : Option (PluginConnectionInfo i))
    (uses : List GmailUse) : Filled i :=
  match (checks qt fields).find? fun check => !check.2 with
  | some check => ⟨check.1, conninfo, uses⟩
  | none =>
    match conninfo with
    | some (.smtp _) => ⟨[], some (.smtp (conn qt fields)), uses⟩
    | other => ⟨[], other, uses⟩

end SmtpConnectionWidget

namespace GmailConnectionWidget

/-- `GmailConnectionWidget::setConnectionInfo` (`gmailconnectionwidget.cpp:18-25`). -/
def setConnectionInfo (fields : GmailFields) : PluginConnectionInfo i → GmailFields
  | .gmail conn => { fields with login := cstr conn.email }
  | _ => fields

/-- `GmailConnectionWidget::fillConnectionInfo` (`gmailconnectionwidget.cpp:27-54`). -/
def fillConnectionInfo (client : GoogleClient) (world : FillWorld) (fields : GmailFields)
    (conninfo : Option (PluginConnectionInfo i)) (uses : List GmailUse) : Filled i :=
  if qt.trimmed fields.login = [] then ⟨str "Field 'E-mail' should be completed", conninfo, uses⟩
  else if qt.trimmed fields.pass = [] then
    ⟨str "Field 'Token' should be completed", conninfo, uses⟩
  else
    match GmailOauth.loadAccessToken world.google fields.pass
        ⟨.make client fields.pass, [], uses⟩ with
    | (.ok _, agents) =>
      match conninfo with
      | some (.gmail _) =>
        ⟨[], some (.gmail ⟨fields.login, agents.mOauthAgent.mRefreshToken⟩), agents.uses⟩
      | other => ⟨[], other, agents.uses⟩
    | (.error fault, agents) => ⟨world.text fault, conninfo, agents.uses⟩

end GmailConnectionWidget

namespace VkConnectionWidget

/-- `VkConnectionWidget::fillConnectionInfo` (`vkconnectionwidget.cpp:20-40`). -/
def fillConnectionInfo (vkOauthUrl : Str) (conninfo : Option (PluginConnectionInfo i))
    (uses : List GmailUse) : Filled i :=
  if qt.trimmed vkOauthUrl = [] then ⟨str "Field 'URL' should be completed", conninfo, uses⟩
  else
    match qt.oauthItems (qt.trimmed vkOauthUrl) with
    | none => ⟨str "Field 'URL' contains wrond format", conninfo, uses⟩
    | some (userId, accessToken) =>
      match conninfo with
      | some (.vk _) => ⟨[], some (.vk ⟨userId, accessToken⟩), uses⟩
      | other => ⟨[], other, uses⟩

end VkConnectionWidget

/-! ## The wrapper -/

namespace PluginWidgetWrapper

variable (client : GoogleClient)

/-- `fillConnectionInfo` of the widget of a plugin. -/
def fillConnectionInfo (world : FillWorld) (fields : PluginFields) (plugin : Plugin)
    (conninfo : Option (PluginConnectionInfo i)) (uses : List GmailUse) : Filled i :=
  match plugin with
  | .smtp => SmtpConnectionWidget.fillConnectionInfo qt fields.smtp conninfo uses
  | .gmail => GmailConnectionWidget.fillConnectionInfo qt client world fields.gmail conninfo uses
  | .vk => VkConnectionWidget.fillConnectionInfo qt fields.vkOauthUrl conninfo uses

/-- `PluginWidgetWrapper::fillConnection` (`pluginwidgetwrapper.cpp:22-28`); the exception has the
text of the error. -/
def fillConnection (world : FillWorld) (fields : PluginFields) (plugin : Plugin)
    (conninfo : Option (PluginConnectionInfo i)) :
    Eff (List GmailUse) Str (Option (PluginConnectionInfo i)) := fun uses =>
  let filled := fillConnectionInfo qt client world fields plugin conninfo uses
  if filled.error ≠ [] then (.error (.thrown filled.error), filled.uses)
  else (.ok filled.conninfo, filled.uses)

/-- `PluginWidgetWrapper::makeConnection` (`pluginwidgetwrapper.cpp:11-20`). -/
def makeConnection (rest : Indeterminate i) (world : FillWorld) (fields : PluginFields)
    (plugin : Plugin) : Eff (List GmailUse) Str (Option (PluginConnectionInfo i)) :=
  fillConnection qt client world fields plugin (some (plugin.makeConnInfo rest))

/-- `PluginWidgetWrapper::setConnectionInfo` (`pluginwidgetwrapper.cpp:30-33`); that of VK does
nothing. -/
def setConnectionInfo (fields : PluginFields) (plugin : Plugin) (connInfo : PluginConnectionInfo i) :
    PluginFields :=
  match plugin with
  | .smtp => { fields with smtp := SmtpConnectionWidget.setConnectionInfo qt fields.smtp connInfo }
  | .gmail => { fields with gmail := GmailConnectionWidget.setConnectionInfo fields.gmail connInfo }
  | .vk => fields

/-- `cleareWidget` of all plugins (`smtpconnectionwidget.cpp:97-106`,
`gmailconnectionwidget.cpp:56-59` and `vkconnectionwidget.cpp:42-44`). -/
def cleared : PluginFields := ⟨⟨[], [], [], [], [], [], [], false⟩, ⟨[], []⟩, []⟩

/-! ## What a filling does -/

section

variable {qt client} {world : FillWorld} {fields : PluginFields} {plugin : Plugin}
  {conninfo : Option (PluginConnectionInfo i)} {uses uses' : List GmailUse}

variable (conninfo) in
/-- A connection is filled by the widget of its own plugin only. -/
theorem fillConnectionInfo_cases :
    (fillConnectionInfo qt client world fields plugin conninfo uses).conninfo = conninfo ∨
      ∃ info info', conninfo = some info ∧ info.plugin = plugin ∧
        (fillConnectionInfo qt client world fields plugin conninfo uses).conninfo = some info' ∧
        info'.plugin = plugin := by
  cases plugin with
  | smtp =>
    rw [fillConnectionInfo]
    unfold SmtpConnectionWidget.fillConnectionInfo
    split
    · exact .inl rfl
    · split
      · exact .inr ⟨_, _, rfl, rfl, rfl, rfl⟩
      · exact .inl rfl
  | gmail =>
    rw [fillConnectionInfo]
    unfold GmailConnectionWidget.fillConnectionInfo
    split
    · exact .inl rfl
    · split
      · exact .inl rfl
      · split
        · split
          · exact .inr ⟨_, _, rfl, rfl, rfl, rfl⟩
          · exact .inl rfl
        · exact .inl rfl
  | vk =>
    rw [fillConnectionInfo]
    unfold VkConnectionWidget.fillConnectionInfo
    split
    · exact .inl rfl
    · split
      · exact .inl rfl
      · split
        · exact .inr ⟨_, _, rfl, rfl, rfl, rfl⟩
        · exact .inl rfl

/-- A connection of another plugin is not changed. -/
theorem fillConnection_other {info : PluginConnectionInfo i} (other : info.plugin ≠ plugin)
    {filled : Option (PluginConnectionInfo i)}
    (done : fillConnection qt client world fields plugin (some info) uses = (.ok filled, uses')) :
    filled = some info := by
  rw [fillConnection] at done
  split at done
  · cases done
  · cases done
    rcases fillConnectionInfo_cases (some info) with same | ⟨_, _, ⟨⟩, own, -⟩
    · exact same
    · exact absurd own other

/-- A filled connection is one of the same plugin. -/
theorem fillConnection_plugin {info : PluginConnectionInfo i}
    {filled : Option (PluginConnectionInfo i)}
    (done : fillConnection qt client world fields plugin (some info) uses = (.ok filled, uses')) :
    filled.map (·.plugin) = some info.plugin := by
  rw [fillConnection] at done
  split at done
  · cases done
  · cases done
    rcases fillConnectionInfo_cases (some info) with same | ⟨_, info', ⟨⟩, own, eq, own'⟩
    · rw [same]
      rfl
    · rw [eq, Option.map_some, own, own']

/-- What Google is asked for with the code in the fields. -/
def codeForm (client : GoogleClient) (fields : PluginFields) : List (Str × Str) :=
  (GmailOauth.make client []).codeForm fields.gmail.pass

theorem small_codeForm (smallId : client.clientId.length < 2 ^ 31)
    (smallSecret : client.clientSecret.length < 2 ^ 31)
    (smallCode : fields.gmail.pass.length < 2 ^ 31) :
    ∀ entry ∈ codeForm client fields, entry.1.length < 2 ^ 31 ∧ entry.2.length < 2 ^ 31 := by
  simp [codeForm, GmailOauth.codeForm, GmailOauth.make, str]
  omega

/-- Without an error an access token has been loaded. -/
theorem loaded_of_silent (usual : world.IsUsual)
    (silent :
      (fillConnectionInfo qt client world fields .gmail conninfo uses).error = []) :
    ∃ agents, GmailOauth.loadAccessToken world.google fields.gmail.pass
        ⟨.make client fields.gmail.pass, [], uses⟩ = (.ok (), agents) ∧
      (fillConnectionInfo qt client world fields .gmail conninfo uses).uses = agents.uses := by
  rw [fillConnectionInfo, GmailConnectionWidget.fillConnectionInfo] at silent ⊢
  split at silent
  · cases silent
  · rename_i login
    split at silent
    · cases silent
    · rename_i pass
      rw [if_neg login, if_neg pass]
      revert silent
      rcases GmailOauth.loadAccessToken world.google fields.gmail.pass
        ⟨.make client fields.gmail.pass, [], uses⟩ with ⟨fault | _, agents⟩
      · intro silent
        cases fault with
        | thrown e => exact absurd silent (usual.named e)
        | terminated => cases silent
      · intro silent
        refine ⟨agents, rfl, ?_⟩
        dsimp only
        split <;> rfl

/-- A connection of Gmail is filled with a code that Google accepts. -/
theorem fillConnection_gmail (usual : world.IsUsual)
    (small : ∀ entry ∈ codeForm client fields, entry.1.length < 2 ^ 31 ∧ entry.2.length < 2 ^ 31)
    {filled : Option (PluginConnectionInfo i)}
    (done : fillConnection qt client world fields .gmail conninfo uses = (.ok filled, uses')) :
    ∃ transfer text body, uses' = uses ++ [.token transfer (.ok (httpCodeOk, text)) (.ok body)] ∧
      transfer.form = codeForm client fields ∧ body.Grants := by
  rw [fillConnection] at done
  split at done
  · cases done
  · rename_i silent
    cases done
    obtain ⟨agents, loaded, same⟩ := loaded_of_silent usual (not_not.mp silent)
    obtain ⟨transfer, text, body, grown, form, grants⟩ :=
      GmailAgents.loadAccessToken_ok usual.escapes loaded small
    exact ⟨transfer, text, body, same.trans grown, form, grants⟩

end

end PluginWidgetWrapper

end SecureDialogues
