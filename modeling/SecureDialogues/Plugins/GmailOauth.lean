import SecureDialogues.PersistentStorage.ConnectionMarshaller
import SecureDialogues.Plugins.GmailMessages

/-!
# Access to Gmail

`GmailOauth` (`plugins/gmail-plugin/gmail-communication/gmailoauth.cpp`) asks for an access token with a
code of the user or with a refresh token, and `GmailMessageCommunicator` asks it for one when the last
one has expired. The agent that `connect` makes has no refresh token.
-/

namespace SecureDialogues

open Text Effect

/-! ## The agent -/

/-- `GOOGLE_CLIENT_ID` and `GOOGLE_CLIENT_SECRET` of the build. -/
structure GoogleClient where
  clientId : Str
  clientSecret : Str

/-- `GmailOauth` (`gmailoauth.h:32-44`), with a time in nanoseconds. -/
structure GmailOauth where
  mClientId : Str
  mClientSecret : Str
  mRedirectUri : Str
  mAccessToken : Str
  mRefreshToken : Str
  mTokenType : Str
  mExpiresAt : Int
  deriving DecidableEq, Repr

/-- What libcurl was used for: a request for a token, with its answer and what is made of it, and the
service itself, with an access token. -/
inductive GmailUse where
  | token (transfer : Transfer) (answer : Except CurlError (Int × Str)) (body : Except ApiError Json)
  | api (authToken : Str)

/-- The agents of a communicator (`gmailmessagecommunicator.h:23-24`), with what they have used libcurl
for. -/
structure GmailAgents where
  mOauthAgent : GmailOauth
  mUserMail : Str
  uses : List GmailUse

namespace GmailOauth

/-- The constructors (`gmailoauth.cpp:7-21`); the one without a refresh token leaves it empty. -/
def make (client : GoogleClient) (refreshToken : Str) : GmailOauth where
  mClientId := client.clientId
  mClientSecret := client.clientSecret
  mRedirectUri := str "urn:ietf:wg:oauth:2.0:oob"
  mAccessToken := []
  mRefreshToken := refreshToken
  mTokenType := []
  mExpiresAt := 0

/-- The form of `loadAccessToken`. -/
def codeForm (userCode : Str) (oauth : GmailOauth) : List (Str × Str) :=
  [(str "code", userCode), (str "client_id", oauth.mClientId),
    (str "client_secret", oauth.mClientSecret), (str "redirect_uri", oauth.mRedirectUri),
    (str "grant_type", str "authorization_code")]

/-- The form of `refreshAccessToken`. -/
def refreshForm (oauth : GmailOauth) : List (Str × Str) :=
  [(str "refresh_token", oauth.mRefreshToken), (str "client_id", oauth.mClientId),
    (str "client_secret", oauth.mClientSecret), (str "grant_type", str "refresh_token")]

/-- `GmailOauth::getAuthParam` (`gmailoauth.cpp:90-94`). -/
def getAuthParam (oauth : GmailOauth) : Str × Str :=
  (str "Authorization", oauth.mTokenType ++ str " " ++ oauth.mAccessToken)

variable (world : GmailWorld)

/-- `GmailOauth::isExpired` (`gmailoauth.cpp:96-99`). -/
def isExpired (oauth : GmailOauth) : Bool := oauth.mExpiresAt ≤ world.systemClock

/-- What is handed to libcurl for a token. -/
def tokenTransfer (form : List (Str × Str)) : Except CurlError Transfer := do
  let builder ← UriBuilder.empty.appendQueries world.curl form
  return HttpRequest.postTransfer (str "https://www.googleapis.com/oauth2/v4/token") builder.mQuery
    [⟨str "Content-Type", str "application/x-www-form-urlencoded"⟩]

/-- A request for a token, up to the parsed answer. -/
def requestToken (form : GmailOauth → List (Str × Str)) : Eff GmailAgents ApiError Json := do
  let transfer ← Eff.readsOr fun agents => ofCurl (tokenTransfer world (form agents.mOauthAgent))
  let answer := world.curl.perform transfer
  let body := ofCurl answer >>= GmailApi.parseResponse world
  Eff.update fun agents => { agents with uses := agents.uses ++ [.token transfer answer body] }
  Eff.readsOr fun _ => body

/-- A member takes a field of the answer. -/
def take {α : Type} (value : Except Json.Error α) (set : α → GmailOauth → GmailOauth) :
    Eff GmailAgents ApiError Unit := do
  let value ← Eff.readsOr fun _ => ofJson value
  Eff.update fun agents => { agents with mOauthAgent := set value agents.mOauthAgent }

/-- `GmailOauth::loadAccessToken` (`gmailoauth.cpp:35-61`). -/
def loadAccessToken (userCode : Str) : Eff GmailAgents ApiError Unit := do
  let body ← requestToken world (codeForm userCode)
  take (body.field (str "access_token") >>= Json.toText) fun token oauth =>
    { oauth with mAccessToken := token }
  take (body.field (str "refresh_token") >>= Json.toText) fun token oauth =>
    { oauth with mRefreshToken := token }
  take (body.field (str "token_type") >>= Json.toText) fun type oauth =>
    { oauth with mTokenType := type }
  take (body.field (str "expires_in") >>= Json.toLong) fun seconds oauth =>
    { oauth with mExpiresAt := world.systemClock + seconds * 10 ^ 9 }

/-- `GmailOauth::refreshAccessToken` (`gmailoauth.cpp:63-88`). -/
def refreshAccessToken : Eff GmailAgents ApiError Unit := do
  let body ← requestToken world refreshForm
  take (body.field (str "access_token") >>= Json.toText) fun token oauth =>
    { oauth with mAccessToken := token }
  take (body.field (str "expires_in") >>= Json.toLong) fun seconds oauth =>
    { oauth with mExpiresAt := world.systemClock + seconds * 10 ^ 9 }
  take (body.field (str "token_type") >>= Json.toText) fun type oauth =>
    { oauth with mTokenType := type }

end GmailOauth

/-! ## The communicator -/

namespace GmailMessageCommunicator

/-- `GmailMessageCommunicator::connect` (`gmailmessagecommunicator.cpp:76-93`) with a connection of
Gmail. -/
def connect (client : GoogleClient) (conn : GmailConnectionInfo) (agents : GmailAgents) :
    GmailAgents where
  mOauthAgent := .make client []
  mUserMail := conn.email
  uses := agents.uses

/-- The header that the service is used with. -/
def authParam : Eff GmailAgents ApiError (Str × Str) := do
  let (headerName, token) ← Eff.reads (·.mOauthAgent.getAuthParam)
  Eff.update fun agents => { agents with uses := agents.uses ++ [.api token] }
  return (headerName, token)

/-- How `send` and `recieve` begin, with a request for a token in a world of its own. -/
def authorize (tokenWorld : GmailWorld) : Eff GmailAgents ApiError (Str × Str) := do
  if ← Eff.reads (·.mOauthAgent.isExpired tokenWorld) then
    GmailOauth.refreshAccessToken tokenWorld
  authParam

/-- What the caller gets instead of an exception. -/
def codeOf {α : Type} (other : PluginApiErrorCodes) :
    Except (Fault ApiError) α → Except PluginApiErrorCodes α
  | .ok value => .ok value
  | .error (.thrown e) => .error (e.code other)
  | .error .terminated => .error other

/-- `GmailMessageCommunicator::send` (`gmailmessagecommunicator.cpp:19-49`). -/
def send (tokenWorld world : GmailWorld) (addressTo message : Str) (agents : GmailAgents) :
    Except PluginApiErrorCodes Unit × GmailAgents :=
  let sending : Eff GmailAgents ApiError Unit := do
    let (headerName, token) ← authorize tokenWorld
    Eff.readsOr fun agents => GmailApi.sendMessage world agents.mUserMail (cstr addressTo)
      (Framing.encoded message) headerName token
  (codeOf .sendFailed (sending agents).1, (sending agents).2)

/-- `GmailMessageCommunicator::recieve` (`gmailmessagecommunicator.cpp:51-74`), for what `getMessages`
of the API agent does with the header. -/
def recieve (tokenWorld : GmailWorld)
    (getMessages : Str → Str → Except ApiError (List (Str × Str))) (agents : GmailAgents) :
    Except PluginApiErrorCodes (List (Str × Str)) × GmailAgents :=
  let recieving : Eff GmailAgents ApiError (List (Str × Str)) := do
    let (headerName, token) ← authorize tokenWorld
    Eff.readsOr fun _ => getMessages headerName token
  (codeOf .recieveFailed (recieving agents).1, (recieving agents).2)

end GmailMessageCommunicator

/-! ## What is used -/

/-- A request for a token has been answered with a body. -/
def HasAnswer (body : Json) (uses : List GmailUse) : Prop :=
  ∃ transfer text, .token transfer (.ok (httpCodeOk, text)) (.ok body) ∈ uses

/-- An answer that has an access token. -/
def Json.Grants (body : Json) : Prop :=
  ∃ accessToken, body.field (str "access_token") >>= Json.toText = .ok accessToken

/-- The service has granted an access token. -/
def IsGranted (uses : List GmailUse) : Prop := ∃ body, HasAnswer body uses ∧ body.Grants

theorem IsGranted.mono {uses uses' : List GmailUse} (granted : IsGranted uses)
    (longer : uses <+: uses') : IsGranted uses' := by
  obtain ⟨body, ⟨transfer, text, member⟩, grants⟩ := granted
  exact ⟨body, ⟨transfer, text, longer.subset member⟩, grants⟩

/-- The form of a request with an empty refresh token. -/
def emptyForm (client : GoogleClient) : List (Str × Str) :=
  [(str "refresh_token", []), (str "client_id", client.clientId),
    (str "client_secret", client.clientSecret), (str "grant_type", str "refresh_token")]

/-- The agent has no refresh token, and has never asked with one or used the service without having
been granted an access token. -/
structure GmailAgents.IsAsking (client : GoogleClient) (agents : GmailAgents) : Prop where
  form : agents.mOauthAgent.refreshForm = emptyForm client
  expired : agents.mOauthAgent.mExpiresAt = 0 ∨ IsGranted agents.uses
  forms : ∀ transfer answer body, .token transfer answer body ∈ agents.uses →
    transfer.form = emptyForm client
  granted : ∀ before token later, agents.uses = before ++ .api token :: later → IsGranted before

namespace GmailAgents

/-- What has been used stays so. -/
def Grows (first second : GmailAgents) : Prop := first.uses <+: second.uses

instance : Std.Refl Grows := ⟨fun agents => List.prefix_refl agents.uses⟩

instance : IsTrans GmailAgents Grows := ⟨fun _ _ _ first second => first.trans second⟩

variable {client : GoogleClient} {agents : GmailAgents}

/-- A field is taken of what grants a token if it has that field. -/
theorem does_take {α : Type} {value : Except Json.Error α} {set : α → GmailOauth → GmailOauth}
    (asking : agents.IsAsking client)
    (granted : ∀ taken, value = .ok taken → IsGranted agents.uses)
    (same : ∀ value oauth, (set value oauth).refreshForm = oauth.refreshForm) :
    Eff.Does Grows (GmailOauth.take value set) agents fun outcome agents' =>
      agents'.IsAsking client ∧ (outcome = .ok () → IsGranted agents'.uses) := by
  cases value with
  | error e => exact ⟨List.prefix_refl _, asking, nofun⟩
  | ok value =>
    have granted := granted value rfl
    refine ⟨List.prefix_refl _, ⟨?_, .inr granted, asking.forms, asking.granted⟩, fun _ => granted⟩
    exact (same value _).trans asking.form

theorem form_of_tokenTransfer {world : GmailWorld} (escapes : world.curl.Escapes)
    {form : List (Str × Str)}
    (small : ∀ entry ∈ form, entry.1.length < 2 ^ 31 ∧ entry.2.length < 2 ^ 31)
    {transfer : Transfer} (made : GmailOauth.tokenTransfer world form = .ok transfer) :
    transfer.form = form := by
  obtain ⟨builder, built, made⟩ := except_bind_eq_ok.mp made
  cases made
  exact UriBuilder.form_postTransfer escapes small built _ _

theorem small_emptyForm (smallId : client.clientId.length < 2 ^ 31)
    (smallSecret : client.clientSecret.length < 2 ^ 31) :
    ∀ entry ∈ emptyForm client, entry.1.length < 2 ^ 31 ∧ entry.2.length < 2 ^ 31 := by
  simp [emptyForm, str]
  omega

/-- A request for a token comes to the uses. -/
theorem IsAsking.token (asking : agents.IsAsking client) {transfer : Transfer}
    (form : transfer.form = emptyForm client) (answer : Except CurlError (Int × Str))
    (body : Except ApiError Json) :
    IsAsking client { agents with uses := agents.uses ++ [.token transfer answer body] } where
  form := asking.form
  expired := asking.expired.imp_right fun granted => granted.mono (List.prefix_append _ _)
  forms other answer' body' member := by
    rcases List.mem_append.mp member with old | new
    · exact asking.forms other answer' body' old
    · cases List.mem_singleton.mp new
      exact form
  granted before token later split := by
    rcases later.eq_nil_or_concat with rfl | ⟨later, last, rfl⟩
    · cases List.append_inj_right' split rfl
    · rw [List.concat_eq_append, ← List.cons_append, ← List.append_assoc] at split
      exact asking.granted before token later (List.append_inj_left' split rfl)

/-- The service is used. -/
theorem IsAsking.api (asking : agents.IsAsking client) (granted : IsGranted agents.uses)
    (authToken : Str) : IsAsking client { agents with uses := agents.uses ++ [.api authToken] } where
  form := asking.form
  expired := .inr (granted.mono (List.prefix_append _ _))
  forms other answer' body' member := by
    rcases List.mem_append.mp member with old | new
    · exact asking.forms other answer' body' old
    · cases List.mem_singleton.mp new
  granted before token later split := by
    rcases later.eq_nil_or_concat with rfl | ⟨later, last, rfl⟩
    · rwa [← List.append_inj_left' split rfl]
    · rw [List.concat_eq_append, ← List.cons_append, ← List.append_assoc] at split
      exact asking.granted before token later (List.append_inj_left' split rfl)

/-- A request that is made. -/
theorem requestToken_eq {world : GmailWorld} {form : GmailOauth → List (Str × Str)}
    {transfer : Transfer}
    (made : GmailOauth.tokenTransfer world (form agents.mOauthAgent) = .ok transfer) :
    let answer := world.curl.perform transfer
    let body := ofCurl answer >>= GmailApi.parseResponse world
    GmailOauth.requestToken world form agents =
      Eff.readsOr (fun _ => body)
        { agents with uses := agents.uses ++ [.token transfer answer body] } := by
  rw [GmailOauth.requestToken, Eff.readsOr_bind, made]
  rfl

/-- A request that returns was answered. -/
theorem requestToken_ok {world : GmailWorld} {form : GmailOauth → List (Str × Str)}
    {body : Json} {agents' : GmailAgents}
    (returned : GmailOauth.requestToken world form agents = (.ok body, agents')) :
    ∃ transfer text, GmailOauth.tokenTransfer world (form agents.mOauthAgent) = .ok transfer ∧
      agents' = { agents with
        uses := agents.uses ++ [.token transfer (.ok (httpCodeOk, text)) (.ok body)] } := by
  cases made : GmailOauth.tokenTransfer world (form agents.mOauthAgent) with
  | error e =>
    rw [GmailOauth.requestToken, Eff.readsOr_bind, made] at returned
    cases returned
  | ok transfer =>
    rw [requestToken_eq made] at returned
    cases answered : ofCurl (world.curl.perform transfer) >>= GmailApi.parseResponse world with
    | error e =>
      rw [answered] at returned
      cases returned
    | ok body' =>
      rw [answered] at returned
      cases returned
      obtain ⟨⟨code, text⟩, response, parsed⟩ := except_bind_eq_ok.mp answered
      obtain ⟨rfl, -⟩ := GmailApi.parseResponse_eq_ok parsed
      refine ⟨transfer, text, rfl, ?_⟩
      rw [ofCurl_eq_ok.mp response]

/-- The service is not used while a field of an answer is taken. -/
theorem leaves_take {α : Type} (value : Except Json.Error α) (set : α → GmailOauth → GmailOauth) :
    Eff.Leaves uses (GmailOauth.take value set) :=
  (Eff.Leaves.readsOr _).bind fun _ => Eff.Leaves.update fun _ => rfl

theorem take_ok {α : Type} {value : Except Json.Error α} {set : α → GmailOauth → GmailOauth}
    {agents' : GmailAgents} (taken : GmailOauth.take value set agents = (.ok (), agents')) :
    ∃ a, value = .ok a := by
  cases value with
  | error e => cases taken
  | ok a => exact ⟨a, rfl⟩

/-- An access token is loaded with a code that the service accepts. -/
theorem loadAccessToken_ok {world : GmailWorld} (escapes : world.curl.Escapes) {userCode : Str}
    {agents' : GmailAgents}
    (loaded : GmailOauth.loadAccessToken world userCode agents = (.ok (), agents'))
    (small : ∀ entry ∈ agents.mOauthAgent.codeForm userCode,
      entry.1.length < 2 ^ 31 ∧ entry.2.length < 2 ^ 31) :
    ∃ transfer text body, agents'.uses =
        agents.uses ++ [.token transfer (.ok (httpCodeOk, text)) (.ok body)] ∧
      transfer.form = agents.mOauthAgent.codeForm userCode ∧ body.Grants := by
  cases requested : GmailOauth.requestToken world (GmailOauth.codeForm userCode) agents with
  | mk outcome between =>
    cases outcome with
    | error e =>
      rw [GmailOauth.loadAccessToken, Eff.bind_error requested] at loaded
      cases loaded
    | ok body =>
      obtain ⟨transfer, text, made, rfl⟩ := requestToken_ok requested
      rw [GmailOauth.loadAccessToken, Eff.bind_ok requested] at loaded
      obtain ⟨_, _, taken, -⟩ := Eff.bind_eq_ok.mp loaded
      refine ⟨transfer, text, body, ?_, form_of_tokenTransfer escapes small made, take_ok taken⟩
      have taken := congrArg (fun result => GmailAgents.uses result.2) loaded
      refine taken.symm.trans ?_
      exact ((leaves_take _ _).bind fun _ => (leaves_take _ _).bind fun _ =>
        (leaves_take _ _).bind fun _ => leaves_take _ _) _

theorem does_requestToken {world : GmailWorld} (escapes : world.curl.Escapes)
    (smallId : client.clientId.length < 2 ^ 31) (smallSecret : client.clientSecret.length < 2 ^ 31)
    (asking : agents.IsAsking client) :
    Eff.Does Grows (GmailOauth.requestToken world GmailOauth.refreshForm) agents fun outcome agents' =>
      agents'.IsAsking client ∧ ∀ body, outcome = .ok body → HasAnswer body agents'.uses := by
  have answered (body : Json)
      (outcome : (GmailOauth.requestToken world GmailOauth.refreshForm agents).1 = .ok body) :
      HasAnswer body (GmailOauth.requestToken world GmailOauth.refreshForm agents).2.uses := by
    obtain ⟨transfer, text, -, after⟩ := requestToken_ok (Prod.ext outcome rfl)
    refine ⟨transfer, text, (congrArg GmailAgents.uses after).symm ▸ ?_⟩
    exact List.mem_append_right _ List.mem_cons_self
  cases made : GmailOauth.tokenTransfer world agents.mOauthAgent.refreshForm with
  | error e =>
    have failed : GmailOauth.requestToken world GmailOauth.refreshForm agents =
        (.error (.thrown (.curl e)), agents) := by
      rw [GmailOauth.requestToken, Eff.readsOr_bind, made]
      rfl
    rw [Eff.Does, failed]
    refine ⟨List.prefix_refl _, asking, ?_⟩
    rintro body ⟨⟩
  | ok transfer =>
    have form : transfer.form = emptyForm client := by
      rw [asking.form] at made
      exact form_of_tokenTransfer escapes (small_emptyForm smallId smallSecret) made
    have asked : (GmailOauth.requestToken world GmailOauth.refreshForm agents).2 =
        { agents with uses := agents.uses ++ [.token transfer (world.curl.perform transfer)
          (ofCurl (world.curl.perform transfer) >>= GmailApi.parseResponse world)] } := by
      rw [requestToken_eq made]
      have leaves (body : Except ApiError Json) :
          Eff.Leaves id (Eff.readsOr fun _ : GmailAgents => body) := Eff.Leaves.readsOr _
      exact leaves _ _
    refine ⟨?_, ?_, answered⟩
    · rw [asked]
      exact List.prefix_append _ _
    · rw [asked]
      exact asking.token form _ _

/-- A refreshed agent has been granted its access token. -/
theorem does_refreshAccessToken {world : GmailWorld} (escapes : world.curl.Escapes)
    (smallId : client.clientId.length < 2 ^ 31) (smallSecret : client.clientSecret.length < 2 ^ 31)
    (asking : agents.IsAsking client) :
    Eff.Does Grows (GmailOauth.refreshAccessToken world) agents fun outcome agents' =>
      agents'.IsAsking client ∧ (outcome = .ok () → IsGranted agents'.uses) := by
  unfold GmailOauth.refreshAccessToken
  apply (does_requestToken escapes smallId smallSecret asking).bind
  · rintro body first - ⟨asking, answered⟩
    have granted (accessToken : Str)
        (found : body.field (str "access_token") >>= Json.toText = .ok accessToken) :
        IsGranted first.uses := ⟨body, answered body rfl, accessToken, found⟩
    refine Eff.Does.bind (does_take asking granted ?_) ?_ ?_
    · intros
      rfl
    · rintro _ second - ⟨asking, granted⟩
      refine Eff.Does.bind (does_take asking (fun _ _ => granted rfl) ?_) ?_ ?_
      · intros
        rfl
      · rintro _ third - ⟨asking, granted⟩
        refine does_take asking (fun _ _ => granted rfl) ?_
        intros
        rfl
      · exact fun _ _ _ kept => ⟨kept.1, nofun⟩
    · exact fun _ _ _ kept => ⟨kept.1, nofun⟩
  · exact fun _ _ _ kept => ⟨kept.1, nofun⟩

theorem does_authParam (asking : agents.IsAsking client) (granted : IsGranted agents.uses) :
    Eff.Does Grows GmailMessageCommunicator.authParam agents fun _ agents' =>
      agents'.IsAsking client ∧ IsGranted agents'.uses :=
  ⟨List.prefix_append _ _, asking.api granted _, granted.mono (List.prefix_append _ _)⟩

/-- Whoever goes on has been granted an access token. -/
theorem does_authorize {world : GmailWorld} (escapes : world.curl.Escapes)
    (since : 0 ≤ world.systemClock)
    (smallId : client.clientId.length < 2 ^ 31) (smallSecret : client.clientSecret.length < 2 ^ 31)
    (asking : agents.IsAsking client) :
    Eff.Does Grows (GmailMessageCommunicator.authorize world) agents fun outcome agents' =>
      agents'.IsAsking client ∧ ∀ header, outcome = .ok header → IsGranted agents'.uses := by
  by_cases expired : agents.mOauthAgent.isExpired world
  · have same : GmailMessageCommunicator.authorize world agents =
        (GmailOauth.refreshAccessToken world >>= fun _ => GmailMessageCommunicator.authParam)
          agents := by
      rw [GmailMessageCommunicator.authorize, Eff.reads_bind, if_pos expired]
    apply Eff.Does.congr _ same
    apply (does_refreshAccessToken escapes smallId smallSecret asking).bind
    · rintro _ agents' - ⟨asking, granted⟩
      apply (does_authParam asking (granted rfl)).mono
      exact fun _ _ _ kept => ⟨kept.1, fun _ _ => kept.2⟩
    · exact fun _ _ _ kept => ⟨kept.1, nofun⟩
  · have same : GmailMessageCommunicator.authorize world agents =
        GmailMessageCommunicator.authParam agents := by
      rw [GmailMessageCommunicator.authorize, Eff.reads_bind, if_neg expired]
    apply Eff.Does.congr _ same
    have granted : IsGranted agents.uses := by
      apply asking.expired.resolve_left
      -- An agent that was never refreshed has expired at the epoch.
      intro unset
      simp [GmailOauth.isExpired, unset, since] at expired
    apply (does_authParam asking granted).mono
    exact fun _ _ _ kept => ⟨kept.1, fun _ _ => kept.2⟩

end GmailAgents

/-! ## A communicator at work -/

/-- What is asked of a communicator, with the worlds in which it is done. -/
inductive GmailMove where
  | connect (conn : GmailConnectionInfo)
  | send (tokenWorld world : GmailWorld) (addressTo message : Str)
  | recieve (tokenWorld : GmailWorld)
    (getMessages : Str → Str → Except ApiError (List (Str × Str)))

namespace GmailMove

/-- What the caller gets. -/
def outcome (agents : GmailAgents) : GmailMove → Except PluginApiErrorCodes Unit
  | .connect _ => .ok ()
  | .send tokenWorld world addressTo message =>
    (GmailMessageCommunicator.send tokenWorld world addressTo message agents).1
  | .recieve tokenWorld getMessages =>
    (GmailMessageCommunicator.recieve tokenWorld getMessages agents).1.map fun _ => ()

def next (client : GoogleClient) (agents : GmailAgents) : GmailMove → GmailAgents
  | .connect conn => GmailMessageCommunicator.connect client conn agents
  | .send tokenWorld world addressTo message =>
    (GmailMessageCommunicator.send tokenWorld world addressTo message agents).2
  | .recieve tokenWorld getMessages =>
    (GmailMessageCommunicator.recieve tokenWorld getMessages agents).2

/-- Libcurl escapes as it says, and it is past the epoch. -/
def IsUsual : GmailMove → Prop
  | .connect _ => True
  | .send tokenWorld _ _ _ => tokenWorld.curl.Escapes ∧ 0 ≤ tokenWorld.systemClock
  | .recieve tokenWorld _ => tokenWorld.curl.Escapes ∧ 0 ≤ tokenWorld.systemClock

/-- What is used for a token asks with an empty refresh token, and the service is used and the move
succeeds only if an access token has been granted. -/
structure AsksInVain (client : GoogleClient) (agents : GmailAgents) (move : GmailMove) : Prop where
  forms : ∀ transfer answer body, .token transfer answer body ∈ (move.next client agents).uses →
    transfer.form = emptyForm client
  granted : ∀ before token later, (move.next client agents).uses = before ++ .api token :: later →
    IsGranted before
  succeeds : (∀ conn, move ≠ .connect conn) → move.outcome agents = .ok () →
    IsGranted (move.next client agents).uses

variable {client : GoogleClient} {agents : GmailAgents}

/-- A communicator that goes on from its authorization. -/
theorem does_authorized {α : Type} {tokenWorld : GmailWorld}
    (usual : tokenWorld.curl.Escapes ∧ 0 ≤ tokenWorld.systemClock)
    (smallId : client.clientId.length < 2 ^ 31) (smallSecret : client.clientSecret.length < 2 ^ 31)
    (asking : agents.IsAsking client) (rest : Str × Str → GmailAgents → Except ApiError α) :
    Eff.Does GmailAgents.Grows
      (GmailMessageCommunicator.authorize tokenWorld >>= fun header => Eff.readsOr (rest header))
      agents fun outcome agents' =>
        agents'.IsAsking client ∧ ∀ value, outcome = .ok value → IsGranted agents'.uses := by
  obtain ⟨escapes, since⟩ := usual
  apply (GmailAgents.does_authorize escapes since smallId smallSecret asking).bind
  · rintro header agents' - ⟨asking, granted⟩
    have leaves : Eff.Leaves id (Eff.readsOr (rest header)) := Eff.Leaves.readsOr _
    have same : (Eff.readsOr (rest header) agents').2 = agents' := leaves agents'
    rw [Eff.Does, same]
    exact ⟨List.prefix_refl _, asking, fun _ _ => granted header rfl⟩
  · intro e agents' _ kept
    refine ⟨kept.1, ?_⟩
    rintro value ⟨⟩

theorem codeOf_eq_ok {α : Type} {other : PluginApiErrorCodes} {outcome : Except (Fault ApiError) α}
    {value : α} :
    GmailMessageCommunicator.codeOf other outcome = .ok value ↔ outcome = .ok value := by
  rcases outcome with (e | _) | value' <;> simp [GmailMessageCommunicator.codeOf]

/-- What one move does. -/
theorem next_isAsking {move : GmailMove} (usual : move.IsUsual)
    (smallId : client.clientId.length < 2 ^ 31) (smallSecret : client.clientSecret.length < 2 ^ 31)
    (asking : agents.IsAsking client) :
    (move.next client agents).IsAsking client ∧
      ((∀ conn, move ≠ .connect conn) → move.outcome agents = .ok () →
        IsGranted (move.next client agents).uses) := by
  cases move with
  | connect conn =>
    refine ⟨⟨rfl, .inl rfl, asking.forms, asking.granted⟩, fun other => ?_⟩
    exact absurd rfl (other conn)
  | send tokenWorld world addressTo message =>
    obtain ⟨-, asking, granted⟩ := does_authorized usual smallId smallSecret asking
      fun header agents => GmailApi.sendMessage world agents.mUserMail (cstr addressTo)
        (Framing.encoded message) header.1 header.2
    refine ⟨asking, fun _ sent => ?_⟩
    exact granted () (codeOf_eq_ok.mp sent)
  | recieve tokenWorld getMessages =>
    obtain ⟨-, asking, granted⟩ := does_authorized usual smallId smallSecret asking
      fun header _ => getMessages header.1 header.2
    refine ⟨asking, fun _ recieved => ?_⟩
    cases messages : (GmailMessageCommunicator.recieve tokenWorld getMessages agents).1 with
    | error e =>
      rw [outcome, messages] at recieved
      cases recieved
    | ok messages' => exact granted messages' (codeOf_eq_ok.mp messages)

end GmailMove

/-- Whatever token the connection holds, every token request has an empty refresh token, and nothing
works before the service has granted an access token to such a request. -/
theorem gmail_asks_in_vain (client : GoogleClient) (smallId : client.clientId.length < 2 ^ 31)
    (smallSecret : client.clientSecret.length < 2 ^ 31) (conn : GmailConnectionInfo)
    (agents : GmailAgents) (unused : agents.uses = []) (moves : List GmailMove)
    (usual : ∀ move ∈ moves, move.IsUsual) :
    Run.Along (GmailMove.next client) (GmailMove.AsksInVain client)
      (GmailMessageCommunicator.connect client conn agents) moves := by
  have start : (GmailMessageCommunicator.connect client conn agents).IsAsking client := by
    have empty : (GmailMessageCommunicator.connect client conn agents).uses = [] := unused
    refine ⟨rfl, .inl rfl, ?_, ?_⟩ <;> simp [empty]
  apply Run.along_of_invariant _ _ start (Run.along_of_mem usual _)
  · intro agents move asking usual
    exact (GmailMove.next_isAsking usual smallId smallSecret asking).1
  · intro agents move asking usual
    obtain ⟨asking', granted⟩ := GmailMove.next_isAsking usual smallId smallSecret asking
    exact ⟨asking'.forms, asking'.granted, granted⟩

namespace Sample

def googleClient : GoogleClient := ⟨str "id", str "secret"⟩

/-- A service that grants a token to everybody. -/
def grantingWorld : GmailWorld :=
  { gmailWorld with
    parse := fun _ => .ok (.object [(str "access_token", .string (str "T")),
      (str "expires_in", .number 3600), (str "token_type", .string (str "Bearer"))]) }

end Sample

/-- Two messages are sent and the mails are read. -/
theorem sample_gmail_asks_in_vain : Run.Along (GmailMove.next Sample.googleClient)
    (GmailMove.AsksInVain Sample.googleClient)
    (GmailMessageCommunicator.connect Sample.googleClient ⟨str "me@mail", str "refresh"⟩
      ⟨.make Sample.googleClient [], [], []⟩)
    [.send Sample.grantingWorld Sample.gmailWorld (str "peer@mail") (str "Hi"),
      .send Sample.grantingWorld Sample.gmailWorld (str "peer@mail") (str "Hi"),
      .recieve Sample.grantingWorld fun _ _ => .ok []] := by
  apply gmail_asks_in_vain Sample.googleClient (by decide) (by decide) _ _ rfl
  have usual : Sample.grantingWorld.curl.Escapes ∧ 0 ≤ Sample.grantingWorld.systemClock :=
    ⟨Sample.shows_gmailWorld.escapes, by decide⟩
  intro move member
  rcases member with _ | ⟨_, _ | ⟨_, _ | ⟨_, ⟨⟩⟩⟩⟩
  · exact usual
  · exact usual
  · exact usual

end SecureDialogues
