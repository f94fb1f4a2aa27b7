import SecureDialogues.Plugins.Framing
import SecureDialogues.Plugins.HttpRequest

/-!
# The client of VK

`VkApi` (`plugins/vk-plugin/vk-communication/vkapi.cpp`) sends a message with one POST, and receives
by long polling: it asks for a server with a key and a number, and then for the updates behind the
number. `VkMessageCommunicator` makes the plugin of it.
-/

namespace SecureDialogues

open Text Effect

/-- What the client gets from the outside: libcurl, `nlohmann::json::parse` and the number of
`getRaindomId`. -/
structure VkWorld where
  curl : Curl
  parse : Str → Except Json.Error Json
  randomId : BitVec 32

/-- A text with letters outside of ASCII. -/
def utf8 (text : String) : Str := text.toUTF8.toList

/-- `VkApi`, without its user. -/
structure VkApi where
  mKey : Str
  mServer : Str
  mLastNumber : BitVec 32
  deriving DecidableEq, Repr

namespace VkApi

/-- `getErrorDescription` (`vkapi.cpp:41-65`). -/
def getErrorDescription (error : BitVec 32) : Str :=
  match error.toInt with
  | 15 => str "Access denied"
  | 900 => utf8 "Нельзя отправлять сообщение пользователю из черного списка"
  | 902 =>
    utf8 ("Нельзя отправлять сообщения этому пользователю в связи с " ++
      "настройками приватности")
  | 914 => utf8 "Сообщение слишком длинное"
  | 936 => utf8 "Контакт не найден"
  | 2 => utf8 "Приложение выключено"
  | 5 => utf8 "Авторизация пользователя не удалась"
  | 6 => utf8 "Слишком много запросов в секунду"
  | 7 => utf8 "Нет прав для выполнения этого действия"
  | other => utf8 "Ошибка неизвестна " ++ printInt other

/-- `json.at("error").at("error_code")`. -/
def errorCode (json : Json) : Except Json.Error Json := do
  let error ← json.field (str "error")
  error.field (str "error_code")

/-- The check of a response for an error (`vkapi.cpp:137-146`, `vkapi.cpp:164-172`). -/
def checkError (errorMessage : Str) (json : Json) : Except ApiError Unit :=
  if json.contains (str "error") then do
    let code ← ofJson (errorCode json)
    let number ← ofJson code.toInt
    let errorMessage := errorMessage ++ getErrorDescription number
    if code.isNumber 5 then throw (.authFailException errorMessage)
    else throw (.apiCallError errorMessage)
  else pure ()

section

variable (world : VkWorld) (authHeaderName authToken : Str)

/-- What is made of a response. -/
def parseResponse (response : Int × Str) : Except ApiError Json :=
  if response.1 ≠ httpCodeOk then throw (.httpError response.1) else ofJson (world.parse response.2)

/-- The query of `getLongPollServer`. -/
def serverQuery : List (Str × Str) :=
  [(str "v", str "5.92"), (authHeaderName, authToken), (str "lp_version", str "3")]

/-- `VkApi::getLongPollServer` (`vkapi.cpp:149-175`). The field `response` is read before the
response is checked for an error. -/
def getLongPollServer : Except ApiError (Str × Str × BitVec 32) := do
  let builder ← ofCurl ((UriBuilder.ofPath (str "https://api.vk.com/method/")).appendPath world.curl
    (str "messages.getLongPollServer"))
  let builder ← ofCurl (builder.appendQueries world.curl (serverQuery authHeaderName authToken))
  let response ← ofCurl (HttpRequest.get world.curl builder.getUri [])
  let json ← parseResponse world response
  let data ← ofJson (json.field (str "response"))
  checkError (utf8 "Ошибка взаимодействия с VK. Причина: ") json
  let server ← ofJson (data.field (str "server"))
  let key ← ofJson (data.field (str "key"))
  let ts ← ofJson (data.field (str "ts"))
  return (← ofJson server.toText, ← ofJson key.toText, ← ofJson ts.toInt)

/-- The body of the loop over the updates (`vkapi.cpp:103-112`): the address and the text of a
message that is not an own one. -/
def incoming (element : Json) : Except Json.Error (Option (Str × Str)) :=
  if 6 ≤ element.size then do
    let type ← element.item 0
    if type.isNumber 4 then do
      let flags ← element.item 2
      let flags ← flags.toInt
      let peer ← element.item 3
      let peer ← peer.toInt
      let text ← element.item 5
      if flags &&& 2 = 0 then do
        let text ← text.toText
        return some (printInt peer.toInt, text)
      else return none
    else return none
  else return none

/-- The loop over the updates. -/
def loadMessages : List Json → List (Str × Str) → Except Json.Error (List (Str × Str))
  | [], messages => return messages
  | element :: updates, messages => do
    let message ← incoming element
    loadMessages updates (messages ++ message.toList)

/-- The query for the updates. -/
def updatesQuery (api : VkApi) : List (Str × Str) :=
  [(str "act", str "a_check"), (str "key", api.mKey), (str "ts", printInt api.mLastNumber.toInt),
    (str "wait", str "25"), (str "version", str "3")]

/-- The request for the updates (`vkapi.cpp:77-89`). -/
def requestUpdates (api : VkApi) : Except ApiError Json := do
  let builder ← ofCurl ((UriBuilder.ofPath (str "https://" ++ api.mServer)).appendQueries world.curl
    api.updatesQuery)
  let response ← ofCurl (HttpRequest.get world.curl builder.getUri [])
  parseResponse world response

/-- The assignment of what `getLongPollServer` returns. -/
def connectServer : Eff VkApi ApiError Unit := do
  let (mServer, mKey, mLastNumber) ←
    Eff.readsOr fun _ => getLongPollServer world authHeaderName authToken
  Eff.update fun _ => { mKey := mKey, mServer := mServer, mLastNumber := mLastNumber }

/-- `mLastNumber = body.at("ts")`. -/
def setLastNumber (body : Json) : Eff VkApi ApiError Unit := do
  let ts ← Eff.readsOr fun _ => ofJson (body.field (str "ts") >>= Json.toInt)
  Eff.update fun api => { api with mLastNumber := ts }

/-- `VkApi::getMessages` once it knows a server (`vkapi.cpp:77-113`). The number is stored before the
updates are read. -/
def readUpdates : Eff VkApi ApiError (List (Str × Str)) := do
  let body ← Eff.readsOr (requestUpdates world)
  if body.contains (str "failed") then do
    let failed ← Eff.readsOr fun _ => ofJson (body.field (str "failed"))
    if failed.isNumber 1 then setLastNumber body
    else connectServer world authHeaderName authToken
    return []
  else do
    setLastNumber body
    let updates ← Eff.readsOr fun _ => ofJson (body.field (str "updates"))
    Eff.readsOr fun _ => ofJson (loadMessages updates.elements [])

/-- `VkApi::getMessages` (`vkapi.cpp:69-114`). -/
def getMessages : Eff VkApi ApiError (List (Str × Str)) := do
  let mServer ← Eff.reads VkApi.mServer
  if mServer = [] then connectServer world authHeaderName authToken else pure ()
  readUpdates world authHeaderName authToken

/-- The form of `sendMessage`. -/
def messageForm (addressTo body : Str) : List (Str × Str) :=
  [(str "v", str "5.92"), (str "user_id", addressTo), (str "peer_id", addressTo), (str "message", body),
    (authHeaderName, authToken), (str "random_id", printNat world.randomId.toNat)]

/-- What `sendMessage` hands to libcurl. -/
def messageTransfer (addressTo body : Str) : Except CurlError Transfer := do
  let builder ← UriBuilder.empty.appendQueries world.curl
    (messageForm world authHeaderName authToken addressTo body)
  return HttpRequest.postTransfer (str "https://api.vk.com/method/messages.send") builder.mQuery
    [⟨str "Content-type", str "application/x-www-form-urlencoded"⟩]

/-- `VkApi::sendMessage` (`vkapi.cpp:116-147`). -/
def sendMessage (addressTo body : Str) : Except ApiError Unit := do
  let transfer ← ofCurl (messageTransfer world authHeaderName authToken addressTo body)
  let response ← ofCurl (world.curl.perform transfer)
  let json ← parseResponse world response
  checkError (utf8 "Не удалось отправить сообщение " ++ addressTo ++ utf8 ". Причина: ") json

end

end VkApi

/-! ## The plugin -/

/-- `VkMessageCommunicator` after `connect`. -/
structure VkMessageCommunicator where
  mApiAgent : VkApi
  /-- The token of `VkOauth`. -/
  mAccessToken : Str
  deriving DecidableEq, Repr

namespace VkMessageCommunicator

/-- `VkMessageCommunicator::connect` (`vkmessagecommunicator.cpp:73-90`) with a connection of VK. The
new agent knows no server; its other members are not read before it does. -/
def connect (accessToken : Str) : VkMessageCommunicator where
  mApiAgent := { mKey := [], mServer := [], mLastNumber := 0 }
  mAccessToken := accessToken

variable (world : VkWorld) (communicator : VkMessageCommunicator)

/-- `VkMessageCommunicator::send` (`vkmessagecommunicator.cpp:17-46`). -/
def send (addressTo message : Str) : PluginApiErrorCodes :=
  match Framing.VkMessageCommunicator.send
    (VkApi.sendMessage world (str "access_token") communicator.mAccessToken) (cstr addressTo)
    message with
  | .ok () => .noError
  | .error e => e.code .sendFailed

/-- `VkMessageCommunicator::recieve` (`vkmessagecommunicator.cpp:48-71`): the messages or an error
code. -/
def recieve : Except PluginApiErrorCodes (List (Str × Str)) × VkMessageCommunicator :=
  match VkApi.getMessages world (str "access_token") communicator.mAccessToken
    communicator.mApiAgent with
  | (.ok messages, mApiAgent) => (.ok messages, { communicator with mApiAgent := mApiAgent })
  | (.error (.thrown e), mApiAgent) =>
    (.error (e.code .recieveFailed), { communicator with mApiAgent := mApiAgent })
  | (.error .terminated, mApiAgent) =>
    (.error .recieveFailed, { communicator with mApiAgent := mApiAgent })

end VkMessageCommunicator

end SecureDialogues
