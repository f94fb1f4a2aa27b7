import SecureDialogues.Lib.Run
import SecureDialogues.Lib.Subscription
import SecureDialogues.Plugins.VkApi

/-!
# Receiving from VK by long polling

The service numbers the updates of a user and answers a request with the updates behind a number.
Over every run, `VkMessageCommunicator` returns the incoming messages in their order and none of them
twice. It passes over messages where it connects anew, where the service has failed to answer, and
where one of the updates is not of the expected form: the number is stored before the updates are
read, so the other messages of the same answer are lost as well.
-/

namespace SecureDialogues

open Text Effect

/-! ## The service -/

/-- The data of a long-poll server, which starts behind the updates so far. -/
structure IsServer (history : List Json) (data : Json) : Prop where
  server : ∃ server, data.field (str "server") = .ok (.string server) ∧ server ≠ [] ∧
    (63 : UInt8) ∉ server ∧ (0 : UInt8) ∉ server
  key : ∃ key, data.field (str "key") = .ok (.string key) ∧ key.length < 2 ^ 31
  ts : data.field (str "ts") = .ok (.number history.length)

/-- An answer to a request for the updates behind a number: a part of them, or the failure code and,
with the code 1, a later number. -/
structure IsAnswer (history : List Json) (n : Nat) (body : Json) : Prop where
  updates : body.contains (str "failed") = false → ∃ m : Nat, n ≤ m ∧ m ≤ history.length ∧
    body.field (str "ts") = .ok (.number m) ∧
    body.field (str "updates") = .ok (.array ((history.take m).drop n))
  outdated : ∀ failed, body.field (str "failed") = .ok failed → failed.isNumber 1 = true →
    ∃ m : Nat, n ≤ m ∧ m ≤ history.length ∧ body.field (str "ts") = .ok (.number m)

/-- The address of `messages.getLongPollServer`. -/
def longPollAddress : Str := str "https://api.vk.com/method//messages.getLongPollServer"

/-- libcurl and the service answer as they are documented to, and the numbers fit an `int`. -/
structure VkWorld.Serves (world : VkWorld) (history : List Json) : Prop where
  escapes : world.curl.Escapes
  small : history.length < 2 ^ 31
  server : ∀ transfer text body data, world.curl.perform transfer = .ok (httpCodeOk, text) →
    world.parse text = .ok body → (target transfer.url).1 = longPollAddress →
    body.field (str "response") = .ok data → IsServer history data
  answer : ∀ transfer text body (n : Nat), world.curl.perform transfer = .ok (httpCodeOk, text) →
    world.parse text = .ok body →
    (target transfer.url).2.lookup (str "act") = some (str "a_check") →
    (target transfer.url).2.lookup (str "ts") = some (printNat n) → IsAnswer history n body

/-- No answer is a failure, and all updates are of the expected form. -/
def VkWorld.IsSmooth (world : VkWorld) : Prop :=
  ∀ transfer text body, world.curl.perform transfer = .ok (httpCodeOk, text) →
    world.parse text = .ok body → body.contains (str "failed") = false ∧
      ∀ updates, body.field (str "updates") = .ok updates →
        ∀ element ∈ updates.elements, ∃ message, VkApi.incoming element = .ok message

/-! ## Runs -/

/-- The number of the last update that was read, if a server is known. -/
def VkApi.position (api : VkApi) : Option Nat :=
  if api.mServer = [] then none else some api.mLastNumber.toNat

/-- The updates of the user, the plugin and what its calls of `recieve` have returned. -/
structure VkInbox where
  history : List Json
  communicator : VkMessageCommunicator
  delivered : List (Str × Str)

/-- What can happen: an update of the user, a connection of the plugin, a call of `recieve`. -/
inductive VkMove where
  | publish (update : Json)
  | connect (accessToken : Str)
  | recieve (world : VkWorld)

namespace VkInbox

/-- The messages that a call has returned. -/
def returned {ε : Type} : Except ε (List (Str × Str)) → List (Str × Str)
  | .ok messages => messages
  | .error _ => []

def next (s : VkInbox) : VkMove → VkInbox
  | .publish update => { s with history := s.history ++ [update] }
  | .connect accessToken => { s with communicator := .connect accessToken }
  | .recieve world => { s with
      communicator := (s.communicator.recieve world).2
      delivered := s.delivered ++ returned (s.communicator.recieve world).1 }

/-- Each answer is one of the service. -/
def IsServed (s : VkInbox) : VkMove → Prop
  | .recieve world => world.Serves s.history
  | _ => True

/-- The plugin stays connected and reads whatever it gets. -/
def IsSmooth : VkMove → Prop
  | .publish _ => True
  | .connect _ => False
  | .recieve world => world.IsSmooth

/-- An update that is an incoming message, with the address of its sender and its text. -/
def message? (update : Json) : Option (Str × Str) := (VkApi.incoming update).toOption.join

/-- What the plugin is for: it follows the updates of the user. -/
def view (s : VkInbox) : Subscription Json (Str × Str) where
  history := s.history
  position := s.communicator.mApiAgent.position
  delivered := s.delivered

end VkInbox

/-! ## One poll -/

namespace VkApi

variable {world : VkWorld} {history : List Json}

/-- The client knows a server and a number of the service. -/
structure IsConnected (history : List Json) (api : VkApi) : Prop where
  server : api.mServer ≠ [] ∧ (63 : UInt8) ∉ api.mServer ∧ (0 : UInt8) ∉ api.mServer
  key : api.mKey.length < 2 ^ 31
  number : api.mLastNumber.toNat ≤ history.length

theorem IsConnected.position {api : VkApi} (connected : api.IsConnected history) :
    api.position = some api.mLastNumber.toNat := if_neg connected.server.1

theorem parseResponse_eq_ok {response : Int × Str} {body : Json}
    (parsed : parseResponse world response = .ok body) :
    response.1 = httpCodeOk ∧ world.parse response.2 = .ok body := by
  unfold parseResponse at parsed
  split at parsed
  · cases parsed
  · rename_i success
    exact ⟨not_not.mp success, ofJson_eq_ok.mp parsed⟩

/-- The digits of a number of 32 bits. -/
theorem length_printNat_le (x : BitVec 32) : (printNat x.toNat).length ≤ 10 := by
  have bound := x.isLt
  rw [printNat, List.length_map]
  exact (Nat.length_toDigits_le_iff (by decide) (by decide)).mpr (by omega)

/-- A response to the request for the updates is an answer for the number of the client. -/
theorem isAnswer_of_requestUpdates (serves : world.Serves history) {api : VkApi}
    (connected : api.IsConnected history) {body : Json}
    (requested : requestUpdates world api = .ok body) :
    IsAnswer history api.mLastNumber.toNat body ∧ (world.IsSmooth →
      body.contains (str "failed") = false ∧ ∀ updates, body.field (str "updates") = .ok updates →
        ∀ element ∈ updates.elements, ∃ message, incoming element = .ok message) := by
  unfold requestUpdates at requested
  obtain ⟨builder, built, requested⟩ := except_bind_eq_ok.mp requested
  obtain ⟨⟨code, text⟩, response, parsed⟩ := except_bind_eq_ok.mp requested
  obtain ⟨rfl, parsed⟩ := parseResponse_eq_ok parsed
  have response := ofCurl_eq_ok.mp response
  obtain ⟨⟨-, plain, clean⟩, smallKey, known⟩ := connected
  have number : printInt api.mLastNumber.toInt = printNat api.mLastNumber.toNat := by
    have small := serves.small
    rw [BitVec.toInt_eq_toNat_of_lt (by omega)]
    simp [printInt]
  have small : ∀ entry ∈ api.updatesQuery, entry.1.length < 2 ^ 31 ∧ entry.2.length < 2 ^ 31 := by
    have digits := length_printNat_le api.mLastNumber
    simp only [updatesQuery, List.mem_cons, List.not_mem_nil, or_false, number]
    rintro entry (rfl | rfl | rfl | rfl | rfl) <;> constructor <;> dsimp only <;>
      first | omega | simp [str]
  have read := UriBuilder.target_getUri serves.escapes (by simp [str]) (by simp [str, plain]) (by simp [str, clean]) small
    (ofCurl_eq_ok.mp built)
  refine ⟨serves.answer _ text body _ response parsed ?_ ?_, ?_⟩
  · rw [read]
    rfl
  · rw [read, ← number]
    rfl
  · intro smooth
    exact smooth _ text body response parsed

/-- `getLongPollServer` fails, or the client is connected behind the updates so far. -/
theorem connectServer_cases (serves : world.Serves history) (authHeaderName authToken : Str)
    (api : VkApi) :
    (∃ e, connectServer world authHeaderName authToken api = (.error (.thrown e), api)) ∨
      ∃ api', connectServer world authHeaderName authToken api = (.ok (), api') ∧
        api'.IsConnected history ∧ api'.mLastNumber.toNat = history.length := by
  unfold connectServer
  rw [Eff.readsOr_bind]
  cases outcome : getLongPollServer world authHeaderName authToken with
  | error e => exact .inl ⟨e, rfl⟩
  | ok found =>
    right
    obtain ⟨mServer, mKey, mLastNumber⟩ := found
    refine ⟨_, rfl, ?_⟩
    unfold getLongPollServer at outcome
    obtain ⟨start, pathed, outcome⟩ := except_bind_eq_ok.mp outcome
    obtain ⟨builder, built, outcome⟩ := except_bind_eq_ok.mp outcome
    obtain ⟨⟨code, text⟩, response, outcome⟩ := except_bind_eq_ok.mp outcome
    obtain ⟨json, parsed, outcome⟩ := except_bind_eq_ok.mp outcome
    obtain ⟨data, found, outcome⟩ := except_bind_eq_ok.mp outcome
    obtain ⟨-, -, outcome⟩ := except_bind_eq_ok.mp outcome
    obtain ⟨server, readServer, outcome⟩ := except_bind_eq_ok.mp outcome
    obtain ⟨key, readKey, outcome⟩ := except_bind_eq_ok.mp outcome
    obtain ⟨ts, readTs, outcome⟩ := except_bind_eq_ok.mp outcome
    obtain ⟨serverText, textOfServer, outcome⟩ := except_bind_eq_ok.mp outcome
    obtain ⟨keyText, textOfKey, outcome⟩ := except_bind_eq_ok.mp outcome
    obtain ⟨number, numberOfTs, outcome⟩ := except_bind_eq_ok.mp outcome
    cases outcome
    obtain ⟨rfl, parsed⟩ := parseResponse_eq_ok parsed
    simp only [ofCurl_eq_ok, ofJson_eq_ok] at *
    have address : builder.mPath = longPollAddress := by
      rw [UriBuilder.mPath_of_appendQueries built,
        UriBuilder.mPath_of_appendPath serves.escapes (by decide) pathed]
      decide
    have goes : (target (cstr builder.getUri)).1 = longPollAddress := by
      rw [UriBuilder.target_path] <;> rw [address] <;> decide
    obtain ⟨⟨server', serverIs, known⟩, ⟨key', keyIs, short⟩, tsIs⟩ :=
      serves.server _ text json data response parsed goes found
    rw [readServer] at serverIs
    rw [readKey] at keyIs
    rw [readTs] at tsIs
    cases serverIs
    cases keyIs
    cases tsIs
    cases textOfServer
    cases textOfKey
    cases numberOfTs
    have bound := serves.small
    have number : (BitVec.ofInt 32 history.length).toNat = history.length := by
      rw [BitVec.ofInt_natCast, BitVec.toNat_ofNat, Nat.mod_eq_of_lt (by omega)]
    exact ⟨⟨known, short, number.le⟩, number⟩

theorem loadMessages_eq_ok {updates : List Json} {messages found : List (Str × Str)}
    (loaded : loadMessages updates messages = .ok found) :
    found = messages ++ updates.filterMap VkInbox.message? := by
  induction updates generalizing messages with
  | nil =>
    cases loaded
    simp
  | cons element rest ih =>
    obtain ⟨message, read, loaded⟩ := except_bind_eq_ok.mp loaded
    have same : VkInbox.message? element = message := by
      rw [VkInbox.message?, read]
      rfl
    rw [ih loaded, List.append_assoc, List.filterMap_cons, same]
    cases message <;> rfl

/-- The loop ends where every update is of the expected form. -/
theorem exists_loadMessages {updates : List Json}
    (readable : ∀ element ∈ updates, ∃ message, incoming element = .ok message)
    (messages : List (Str × Str)) : ∃ found, loadMessages updates messages = .ok found := by
  induction updates generalizing messages with
  | nil => exact ⟨messages, rfl⟩
  | cons element rest ih =>
    obtain ⟨message, read⟩ := readable element List.mem_cons_self
    have later : ∀ element ∈ rest, ∃ message, incoming element = .ok message :=
      fun element member => readable element (List.mem_cons_of_mem _ member)
    obtain ⟨found, loaded⟩ := ih later (messages ++ message.toList)
    exact ⟨found, by rw [loadMessages, read]; exact loaded⟩

/-- A later number of the service. -/
theorem IsConnected.advance {api : VkApi} (connected : api.IsConnected history) {m : Nat}
    (small : history.length < 2 ^ 31) (known : m ≤ history.length) :
    ({ api with mLastNumber := BitVec.ofInt 32 m } : VkApi).IsConnected history ∧
      (BitVec.ofInt 32 m).toNat = m := by
  have number : (BitVec.ofInt 32 m).toNat = m := by
    rw [BitVec.ofInt_natCast, BitVec.toNat_ofNat, Nat.mod_eq_of_lt (by omega)]
  exact ⟨⟨connected.server, connected.key, number.trans_le known⟩, number⟩

theorem setLastNumber_eq {body : Json} {m : Nat} (ts : body.field (str "ts") = .ok (.number m))
    (api : VkApi) :
    setLastNumber body api = (.ok (), { api with mLastNumber := BitVec.ofInt 32 m }) := by
  rw [setLastNumber, ts]
  rfl

/-- What a poll of a connected client does: nothing; or it goes on to a later number, and returns the
messages in between unless something is wrong with the answer. -/
theorem readUpdates_cases (serves : world.Serves history) (authHeaderName authToken : Str)
    {api : VkApi} (connected : api.IsConnected history) :
    let outcome := readUpdates world authHeaderName authToken api
    (outcome.2 = api ∧ VkInbox.returned outcome.1 = []) ∨
      outcome.2.IsConnected history ∧ api.mLastNumber.toNat ≤ outcome.2.mLastNumber.toNat ∧
        (VkInbox.returned outcome.1 = Subscription.between VkInbox.message? history
            api.mLastNumber.toNat outcome.2.mLastNumber.toNat ∨
          ¬ world.IsSmooth ∧ VkInbox.returned outcome.1 = []) := by
  dsimp only
  unfold readUpdates
  rw [Eff.readsOr_bind]
  cases requested : requestUpdates world api with
  | error e => exact .inl ⟨rfl, rfl⟩
  | ok body =>
    obtain ⟨⟨updates, outdated⟩, smooth⟩ := isAnswer_of_requestUpdates serves connected requested
    dsimp only
    split
    · rename_i failure
      have rough : ¬ world.IsSmooth := by
        intro isSmooth
        rw [(smooth isSmooth).1] at failure
        cases failure
      rw [Eff.readsOr_bind]
      cases found : body.field (str "failed") with
      | error e => exact .inl ⟨rfl, rfl⟩
      | ok failed =>
        simp only [ofJson]
        split
        · rename_i one
          obtain ⟨m, forth, known, ts⟩ := outdated failed found one
          obtain ⟨connected', number⟩ := connected.advance serves.small known
          rw [Eff.bind_ok (setLastNumber_eq ts api)]
          exact .inr ⟨connected', forth.trans_eq number.symm, .inr ⟨rough, rfl⟩⟩
        · rcases connectServer_cases serves authHeaderName authToken api with
            ⟨e, fails⟩ | ⟨api', connects, connected', number⟩
          · rw [Eff.bind_error fails]
            exact .inl ⟨rfl, rfl⟩
          · rw [Eff.bind_ok connects]
            exact .inr ⟨connected', connected.number.trans_eq number.symm, .inr ⟨rough, rfl⟩⟩
    · rename_i success
      rw [Bool.not_eq_true] at success
      obtain ⟨m, forth, known, ts, found⟩ := updates success
      obtain ⟨connected', number⟩ := connected.advance serves.small known
      rw [Eff.bind_ok (setLastNumber_eq ts api), Eff.readsOr_bind, found]
      simp only [ofJson, Json.elements]
      refine .inr ?_
      cases loaded : loadMessages ((history.take m).drop api.mLastNumber.toNat) [] with
      | ok messages =>
        refine ⟨connected', forth.trans_eq number.symm, .inl ?_⟩
        show messages = _
        rw [loadMessages_eq_ok loaded, List.nil_append]
        show _ = Subscription.between VkInbox.message? history _ (BitVec.ofInt 32 m).toNat
        rw [number]
        rfl
      | error e =>
        refine ⟨connected', forth.trans_eq number.symm, .inr ⟨?_, rfl⟩⟩
        intro isSmooth
        obtain ⟨messages, loads⟩ := exists_loadMessages ((smooth isSmooth).2 _ found) []
        have both := loaded.symm.trans loads
        cases both

end VkApi

/-! ## Every run -/

namespace VkInbox

variable {s : VkInbox}

/-- The plugin knows no server, or a server with a number of the service. -/
def IsConsistent (s : VkInbox) : Prop :=
  s.communicator.mApiAgent.mServer = [] ∨ s.communicator.mApiAgent.IsConnected s.history

/-- The number that was read last is one of the service. -/
theorem IsConsistent.known (consistent : s.IsConsistent) {n : Nat}
    (here : s.view.position = some n) : n ≤ s.view.history.length := by
  have here : s.communicator.mApiAgent.position = some n := here
  rcases consistent with fresh | connected
  · have outside : s.communicator.mApiAgent.position = none := if_pos fresh
    rw [outside] at here
    cases here
  · rw [connected.position] at here
    cases here
    exact connected.number

/-- The messages of a call of `recieve`, and the agent after it. -/
theorem recieve_eq (world : VkWorld) (communicator : VkMessageCommunicator) :
    let outcome := VkApi.getMessages world (str "access_token") communicator.mAccessToken
      communicator.mApiAgent
    returned (communicator.recieve world).1 = returned outcome.1 ∧
      (communicator.recieve world).2.mApiAgent = outcome.2 := by
  dsimp only
  unfold VkMessageCommunicator.recieve
  rcases VkApi.getMessages world (str "access_token") communicator.mAccessToken
    communicator.mApiAgent with ⟨(e | _) | messages, api⟩ <;> exact ⟨rfl, rfl⟩

/-- A poll of a connected client, as a step of a subscriber. -/
theorem steps_readUpdates {world : VkWorld} {history : List Json} (serves : world.Serves history)
    (authHeaderName authToken : Str) {api : VkApi} (connected : api.IsConnected history)
    {lossy : Prop} (loses : ¬ world.IsSmooth → lossy) (delivered : List (Str × Str)) :
    let outcome := VkApi.readUpdates world authHeaderName authToken api
    outcome.2.IsConnected history ∧ Subscription.Steps message? lossy
      ⟨history, api.position, delivered⟩
      ⟨history, outcome.2.position, delivered ++ returned outcome.1⟩ := by
  dsimp only
  rcases VkApi.readUpdates_cases serves authHeaderName authToken connected with
    ⟨same, none⟩ | ⟨connected', forth, messages⟩
  · rw [same, none, List.append_nil]
    exact ⟨connected, .refl⟩
  · refine ⟨connected', .single ?_⟩
    rw [connected'.position]
    rcases messages with messages | ⟨rough, none⟩
    · rw [messages]
      exact .read _ _ connected.position forth connected'.number
    · rw [none, List.append_nil]
      exact .skip _ _ connected.position forth connected'.number (loses rough)

theorem steps_recieve {world : VkWorld} (serves : world.Serves s.history)
    (consistent : s.IsConsistent) {lossy : Prop}
    (loses : ¬ world.IsSmooth ∨ s.view.position = none → lossy) :
    (s.next (.recieve world)).IsConsistent ∧
      Subscription.Steps message? lossy s.view (s.next (.recieve world)).view := by
  obtain ⟨same, agent⟩ := recieve_eq world s.communicator
  unfold IsConsistent
  simp only [next, view, same, agent]
  unfold VkApi.getMessages
  rw [Eff.reads_bind]
  rcases consistent with fresh | connected
  · have outside : s.communicator.mApiAgent.position = none := if_pos fresh
    rw [if_pos fresh]
    rcases VkApi.connectServer_cases serves (str "access_token") s.communicator.mAccessToken
      s.communicator.mApiAgent with ⟨e, fails⟩ | ⟨api', connects, connected', number⟩
    · rw [Eff.bind_error fails]
      simp only [returned, List.append_nil]
      exact ⟨.inl fresh, .refl⟩
    · rw [Eff.bind_ok connects]
      obtain ⟨connected'', steps⟩ := steps_readUpdates serves (str "access_token")
        s.communicator.mAccessToken connected' (fun rough => loses (.inl rough)) s.delivered
      refine ⟨.inr connected'', .head ?_ steps⟩
      rw [connected'.position, number]
      exact .enter (loses (.inr outside))
  · rw [if_neg connected.server.1]
    obtain ⟨connected', steps⟩ := steps_readUpdates serves (str "access_token")
      s.communicator.mAccessToken connected (fun rough => loses (.inl rough)) s.delivered
    exact ⟨.inr connected', steps⟩

/-- Each move is a number of steps of a subscriber, and passes over nothing if it is smooth. -/
theorem steps_next {move : VkMove} (served : s.IsServed move) (consistent : s.IsConsistent)
    {lossy : Prop} (loses : ¬ IsSmooth move ∨ s.view.position = none → lossy) :
    (s.next move).IsConsistent ∧ Subscription.Steps message? lossy s.view (s.next move).view := by
  cases move with
  | publish update =>
    refine ⟨consistent.imp id fun connected => ?_, .single (.publish update)⟩
    exact ⟨connected.server, connected.key, connected.number.trans (by simp [next])⟩
  | connect accessToken => exact ⟨.inl rfl, .single (.leave (loses (.inl id)))⟩
  | recieve world => exact steps_recieve served consistent loses

/-- A user with some updates, and a plugin that has just been connected. -/
def initial (history : List Json) (accessToken : Str) : VkInbox where
  history := history
  communicator := .connect accessToken
  delivered := []

/-- Whatever happens, the plugin follows the updates. -/
theorem steps_after {moves : List VkMove} (served : Run.Along next IsServed s moves)
    (consistent : s.IsConsistent) : (Run.after next s moves).IsConsistent ∧
      Subscription.Steps message? True s.view (Run.after next s moves).view := by
  induction moves generalizing s with
  | nil => exact ⟨consistent, .refl⟩
  | cons move rest ih =>
    obtain ⟨consistent', steps⟩ : (s.next move).IsConsistent ∧
        Subscription.Steps message? True s.view (s.next move).view :=
      steps_next served.1 consistent fun _ => trivial
    obtain ⟨consistent'', steps'⟩ := ih served.2 consistent'
    exact ⟨consistent'', steps.trans steps'⟩

/-- A connected plugin passes over nothing while all moves are smooth. -/
theorem quietSteps_after {moves : List VkMove} (served : Run.Along next IsServed s moves)
    (smooth : ∀ move ∈ moves, IsSmooth move) (consistent : s.IsConsistent) {n : Nat}
    (here : s.view.position = some n) :
    Subscription.Steps message? False s.view (Run.after next s moves).view := by
  induction moves generalizing s n with
  | nil => exact .refl
  | cons move rest ih =>
    have quiet : ¬ IsSmooth move ∨ s.view.position = none → False := by
      rintro (rough | lost)
      · exact rough (smooth move List.mem_cons_self)
      · rw [here] at lost
        cases lost
    obtain ⟨consistent', steps⟩ := steps_next served.1 consistent quiet
    obtain ⟨m, here', -⟩ := steps.continues n here (consistent.known here)
    have later : ∀ move ∈ rest, IsSmooth move :=
      fun move member => smooth move (List.mem_cons_of_mem _ member)
    exact steps.trans (ih served.2 later consistent' here')

end VkInbox

/-- Over every run, what the calls of `recieve` return is a selection of the incoming messages up to
the last number that was read, in the order of the service. -/
theorem vk_messages_in_order (history : List Json) (accessToken : Str) (moves : List VkMove)
    (served : Run.Along VkInbox.next VkInbox.IsServed (.initial history accessToken) moves) :
    (Run.after VkInbox.next (.initial history accessToken) moves).view.InOrder VkInbox.message? := by
  obtain ⟨-, steps⟩ := VkInbox.steps_after served (.inl rfl)
  apply steps.inOrder
  refine ⟨?_, List.nil_sublist _⟩
  intro n known
  cases known

/-- From any moment on at which the plugin is connected, it returns exactly the incoming messages
between the number it has read then and the one it has read last, as long as it stays connected, no
answer is a failure and all updates are of the expected form. -/
theorem vk_messages_complete (history : List Json) (accessToken : Str) (before later : List VkMove)
    (served : Run.Along VkInbox.next VkInbox.IsServed (.initial history accessToken)
      (before ++ later))
    (smooth : ∀ move ∈ later, VkInbox.IsSmooth move) :
    Subscription.Continues VkInbox.message?
      (Run.after VkInbox.next (.initial history accessToken) before).view
      (Run.after VkInbox.next (.initial history accessToken) (before ++ later)).view := by
  intro n here known
  rw [Run.along_append] at served
  obtain ⟨consistent, -⟩ := VkInbox.steps_after served.1 (.inl rfl)
  have steps := VkInbox.quietSteps_after served.2 smooth consistent here
  rw [← Run.after_append] at steps
  exact steps.continues n here known

namespace Sample

/-- A service with some updates. It answers requests behind the number 0 with all of them. -/
def vkWorld (history : List Json) : VkWorld where
  curl := {
    handler := true
    escape := fun text length =>
      some (UrlEncoding.encode (if length = 0 then cstr text else text.take length.toNat))
    perform := fun transfer =>
      if (target transfer.url).2.lookup (str "act") ≠ some (str "a_check") then
        .ok (httpCodeOk, str "server")
      else if (target transfer.url).2.lookup (str "ts") = some (str "0") then
        .ok (httpCodeOk, str "updates")
      else .error (.curlHttpSendError (str "Failure when receiving data from the peer")) }
  parse text :=
    if text = str "server" then
      .ok (.object [(str "response", .object [(str "server", .string (str "im.vk.com/nim1")),
        (str "key", .string (str "d2e5")), (str "ts", .number history.length)])])
    else .ok (.object [(str "ts", .number history.length), (str "updates", .array history)])
  randomId := 1

/-- An incoming message with the text of an encoded `Hi`. -/
def vkUpdate : Json :=
  .array [.number 4, .number 7, .number 1, .number 42, .number 0, .string (str "SGk=")]

theorem escapes_vkWorld (history : List Json) : (vkWorld history).curl.Escapes where
  counted := by
    intro text length output escaped positive
    have nonzero : length ≠ 0 := by
      rintro rfl
      exact absurd positive (by decide)
    cases escaped
    rw [if_neg nonzero]
  terminated := by
    intro text output escaped
    cases escaped
    rfl

theorem serves_vkWorld {history : List Json} (small : history.length < 2 ^ 31) :
    (vkWorld history).Serves history where
  escapes := escapes_vkWorld history
  small := small
  server := by
    intro transfer text body data performed parsed _ found
    simp only [vkWorld] at performed
    split at performed
    · cases performed
      cases parsed
      cases found
      exact ⟨⟨_, rfl, by decide, by decide, by decide⟩, ⟨_, rfl, by decide⟩, rfl⟩
    · split at performed <;> cases performed
      cases parsed
      cases found
  answer := by
    intro transfer text body n performed parsed acts asks
    simp only [vkWorld, acts, asks, ne_eq, not_true_eq_false, if_false] at performed
    split at performed
    · rename_i zero
      have first : n = 0 := by
        have digits := congrArg digitsValue (Option.some.inj zero)
        rw [digitsValue_printNat] at digits
        exact digits
      cases performed
      cases parsed
      rw [first]
      refine ⟨fun _ => ⟨history.length, Nat.zero_le _, le_refl _, rfl, ?_⟩, ?_⟩
      · rw [List.take_length]
        rfl
      · intro failed found
        cases found
    · cases performed

theorem isSmooth_vkWorld {history : List Json}
    (readable : ∀ element ∈ history, ∃ message, VkApi.incoming element = .ok message) :
    (vkWorld history).IsSmooth := by
  intro transfer text body performed parsed
  simp only [vkWorld] at performed parsed
  have texts : text = str "server" ∨ text = str "updates" := by
    split at performed
    · cases performed
      exact .inl rfl
    · split at performed <;> cases performed
      exact .inr rfl
  rcases texts with rfl | rfl
  · cases parsed
    refine ⟨rfl, ?_⟩
    intro updates found
    cases found
  · cases parsed
    refine ⟨rfl, ?_⟩
    intro updates found element member
    cases found
    exact readable element member

/-- Two polls, with a message in between. -/
def vkMoves : List VkMove :=
  [.recieve (vkWorld []), .publish vkUpdate, .recieve (vkWorld [vkUpdate])]

theorem served_vkMoves :
    Run.Along VkInbox.next VkInbox.IsServed (.initial [] (str "token")) vkMoves :=
  ⟨serves_vkWorld (by decide), trivial, serves_vkWorld (by decide), trivial⟩

end Sample

/-- The message is returned. -/
theorem sample_messages_in_order :
    (Run.after VkInbox.next (.initial [] (str "token")) Sample.vkMoves).delivered =
        [(str "42", str "SGk=")] ∧
      (Run.after VkInbox.next (.initial [] (str "token")) Sample.vkMoves).view.InOrder
        VkInbox.message? :=
  ⟨by decide +kernel, vk_messages_in_order [] (str "token") Sample.vkMoves Sample.served_vkMoves⟩

/-- It is the message behind the number 0. -/
theorem sample_messages_complete :
    Subscription.Continues VkInbox.message?
      (Run.after VkInbox.next (.initial [] (str "token")) (Sample.vkMoves.take 1)).view
      (Run.after VkInbox.next (.initial [] (str "token")) Sample.vkMoves).view := by
  apply vk_messages_complete [] (str "token") (Sample.vkMoves.take 1) (Sample.vkMoves.drop 1)
    Sample.served_vkMoves
  intro move member
  rcases List.mem_cons.mp member with rfl | member
  · trivial
  · rw [List.mem_singleton.mp member]
    apply Sample.isSmooth_vkWorld
    intro element present
    rw [List.mem_singleton.mp present]
    exact ⟨_, rfl⟩

end SecureDialogues
