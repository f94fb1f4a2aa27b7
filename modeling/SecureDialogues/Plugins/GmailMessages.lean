import SecureDialogues.Plugins.Framing
import SecureDialogues.Plugins.GmailApi
import SecureDialogues.Plugins.HttpRequest

/-!
# Mails of Gmail

How `GmailApi` (`plugins/gmail-plugin/gmail-communication/gmailapi.cpp`) makes a mail of a message and
a message of a mail. The service hands a body out in the URL-safe alphabet of base64, which the decoder
does not know; a body that is base64 itself has no digit in which the alphabets differ, so the texts
arrive as they were sent.
-/

namespace SecureDialogues

open Text Effect

/-! ## The client -/

/-- What the client gets from the outside: libcurl, `nlohmann::json::parse` and
`std::chrono::system_clock::now()` in nanoseconds. -/
structure GmailWorld where
  curl : Curl
  parse : Str → Except Json.Error Json
  systemClock : Int

namespace GmailApi

/-- `isMessageOld` (`gmailapi.cpp:23-29`), with a time in milliseconds. -/
def isMessageOld (world : GmailWorld) (messageTime : Int) : Bool :=
  messageTime < (world.systemClock - 120 * 10 ^ 9).tdiv (10 ^ 6)

/-- A check of a response (`gmailapi.cpp:41-49`, and likewise for the other requests). -/
def parseResponse (world : GmailWorld) (response : Int × Str) : Except ApiError Json :=
  if response.1 ≠ httpCodeOk then throw (.runtimeError (str "Failed to send message"))
  else ofJson (world.parse response.2)

/-- The condition of `std::find_if`: the header is `From`. -/
def isFrom (header : Json) : Bool :=
  match header.field (str "name") with
  | .ok name => name.isText (str "From")
  | .error _ => false

/-- `std::regex_search` for `<([^>]+)>`: what the first match captures. -/
def angled : Str → Option Str
  | [] => none
  | c :: rest =>
    let inside := rest.takeWhile (· ≠ 62)
    if c = 60 ∧ inside ≠ [] ∧ inside.length < rest.length then some inside else angled rest

/-- The address and the text of a mail (`gmailapi.cpp:51-73`), and two empty strings for a mail that is
too old or has no sender. -/
def readMail (world : GmailWorld) (mail : Str) (body : Json) : Except ApiError (Str × Str) := do
  let payload ← ofJson (body.field (str "payload"))
  let headers ← ofJson (payload.field (str "headers"))
  let internalDate ← ofJson (body.field (str "internalDate") >>= Json.toText)
  let messageTime ← ofNumber (stol 64 internalDate)
  match isMessageOld world messageTime.toInt, headers.elements.find? isFrom with
  | false, some header => do
    let val ← ofJson (header.field (str "value") >>= Json.toText)
    let toMail := (angled val).getD val
    let content ← ofJson (payload.field (str "body"))
    let size ← ofJson (content.field (str "size"))
    if size.isNumber 0 then return (toMail, [])
    let mimeType ← ofJson (payload.field (str "mimeType"))
    if mimeType.isText (str "text/plain") = false ∨ mail = toMail then return (toMail, [])
    let data ← ofJson (content.field (str "data") >>= Json.toText)
    return (toMail, Framing.base64_decode data)
  | _, _ => return ([], [])

/-- `GmailApi::getMail` (`gmailapi.cpp:31-74`). -/
def getMail (world : GmailWorld) (id authHeaderName authToken mail : Str) :
    Except ApiError (Str × Str) := do
  let builder := UriBuilder.ofPath (str "https://www.googleapis.com/gmail/v1/users")
  let builder ← ofCurl (builder.appendPath world.curl mail)
  let builder ← ofCurl (builder.appendPath world.curl (str "messages"))
  let builder ← ofCurl (builder.appendPath world.curl id)
  let response ← ofCurl (HttpRequest.get world.curl builder.getUri [⟨authHeaderName, authToken⟩])
  let body ← parseResponse world response
  readMail world mail body

/-- The text of a mail (`gmailapi.cpp:89-98`). -/
def messBody (mUserMail addressTo body : Str) : Str :=
  str "From: " ++ mUserMail ++ str "\n" ++ str "To: " ++ addressTo ++ str "\n" ++
    str "Subject: sequre-dialogues" ++ str "\n" ++ str "\n" ++ body

/-- What `sendMessage` hands to libcurl. -/
def messageTransfer (world : GmailWorld) (mUserMail addressTo body authHeaderName authToken : Str) :
    Except CurlError Transfer := do
  let builder := UriBuilder.ofPath (str "https://www.googleapis.com/upload/gmail/v1/users")
  let builder ← builder.appendPath world.curl mUserMail
  let builder ← builder.appendPath world.curl (str "messages")
  let builder ← builder.appendPath world.curl (str "send")
  let builder ← builder.appendQuery world.curl (str "uploadType") (str "media")
  let messBody := messBody mUserMail addressTo body
  return HttpRequest.postTransfer builder.getUri messBody
    [⟨str "Content-Type", str "message/rfc822"⟩, ⟨authHeaderName, authToken⟩,
      ⟨str "Content-Length", printNat messBody.length⟩]

/-- `GmailApi::sendMessage` (`gmailapi.cpp:85-118`). -/
def sendMessage (world : GmailWorld) (mUserMail addressTo body authHeaderName authToken : Str) :
    Except ApiError Unit := do
  let transfer ← ofCurl (messageTransfer world mUserMail addressTo body authHeaderName authToken)
  let response ← ofCurl (world.curl.perform transfer)
  if response.1 ≠ httpCodeOk then throw (.runtimeError (str "Failed to send message"))
  else return ()

end GmailApi

/-! ## The service -/

/-- The body of a mail: what comes behind its first empty line. The flag tells whether a line
starts. -/
def mailBody : Bool → Str → Str
  | _, [] => []
  | starts, c :: rest =>
    if c = newline ∧ starts = true then rest else mailBody (c == newline) rest

/-- The URL-safe alphabet of base64. -/
def urlSafe (c : UInt8) : UInt8 := if c = 43 then 45 else if c = 47 then 95 else c

/-- A mail as the service keeps it: the header `From`, the body and the time of its arrival. -/
structure Mail where
  sender : Str
  body : Str
  internalDate : BitVec 64

/-- The address in the header. -/
def Mail.address (mail : Mail) : Str := (GmailApi.angled mail.sender).getD mail.sender

/-- The resource that the service hands out for a mail. -/
structure Mail.IsShown (mail : Mail) (json : Json) : Prop where
  sender : ∃ payload headers header, json.field (str "payload") = .ok payload ∧
    payload.field (str "headers") = .ok headers ∧
    headers.elements.find? GmailApi.isFrom = some header ∧
    header.field (str "value") = .ok (.string mail.sender)
  body : ∃ payload content, json.field (str "payload") = .ok payload ∧
    payload.field (str "body") = .ok content ∧
    content.field (str "size") = .ok (.number mail.body.length) ∧
    payload.field (str "mimeType") = .ok (.string (str "text/plain")) ∧
    content.field (str "data") = .ok (.string ((Base64.encode mail.body).map urlSafe))
  time : json.field (str "internalDate") = .ok (.string (printInt mail.internalDate.toInt))

/-! ## Bodies -/

/-- A byte that leaves no digit of base64 in which the alphabets differ. -/
def isHarmless (c : UInt8) : Bool := c < 128 && c.toNat % 64 < 62

theorem urlSafe_digit {n : Nat} (small : n < 62) : urlSafe (Base64.digit n) = Base64.digit n := by
  revert n
  decide

theorem urlSafe_padding : urlSafe Base64.padding = Base64.padding := by decide

/-- The encodings of a harmless text in both alphabets are the same. -/
theorem map_urlSafe_encode {text : Str} (harmless : ∀ c ∈ text, isHarmless c = true) :
    (Base64.encode text).map urlSafe = Base64.encode text := by
  have bounds : ∀ c : UInt8, isHarmless c = true → c.toNat < 128 ∧ c.toNat % 64 < 62 := by
    intro c harmless
    simpa [isHarmless, UInt8.lt_iff_toNat_lt] using harmless
  induction text using Base64.encode.induct with
  | case1 => rfl
  | case2 a =>
    have first := bounds a (harmless a (by simp))
    simp [Base64.encode, urlSafe_digit (show a.toNat / 4 < 62 by omega),
      urlSafe_digit (show a.toNat % 4 * 16 < 62 by omega), urlSafe_padding]
  | case3 a b =>
    have first := bounds a (harmless a (by simp))
    have second := bounds b (harmless b (by simp))
    simp [Base64.encode, urlSafe_digit (show a.toNat / 4 < 62 by omega),
      urlSafe_digit (show a.toNat % 4 * 16 + b.toNat / 16 < 62 by omega),
      urlSafe_digit (show b.toNat % 16 * 4 < 62 by omega), urlSafe_padding]
  | case4 a b c rest ih =>
    have first := bounds a (harmless a (by simp))
    have second := bounds b (harmless b (by simp))
    have third := bounds c (harmless c (by simp))
    have later : ∀ c ∈ rest, isHarmless c = true := fun c member => harmless c (by simp [member])
    simp [Base64.encode, urlSafe_digit (show a.toNat / 4 < 62 by omega),
      urlSafe_digit (show a.toNat % 4 * 16 + b.toNat / 16 < 62 by omega),
      urlSafe_digit (show b.toNat % 16 * 4 + c.toNat / 64 < 62 by omega),
      urlSafe_digit (show c.toNat % 64 < 62 by omega), ih later]

/-- The digits of base64 and the ends of lines are harmless. -/
theorem isHarmless_of_mem_encode {text : Str} {c : UInt8} (member : c ∈ Base64.encode text) :
    isHarmless c = true := by
  rcases Base64.mem_encode member with ⟨n, small, rfl⟩ | rfl
  · clear member
    revert n
    decide
  · decide

theorem base64_decode_encode (text : Str) : Framing.base64_decode (Base64.encode text) = text := by
  rw [Framing.base64_decode_eq, Framing.decode_takeWhile_encode, Base64.decode_encode]

/-- What comes behind the digits is not read. -/
theorem base64_decode_append {text ending : Str} (ends : ∀ c ∈ ending, Framing.is_base64 c = false) :
    Framing.base64_decode (Base64.encode text ++ ending) = text := by
  have none : ending.takeWhile Framing.is_base64 = [] := by
    cases ending with
    | nil => rfl
    | cons c rest =>
      apply List.takeWhile_cons_of_neg
      simp [ends c List.mem_cons_self]
  rw [Framing.base64_decode_eq, List.takeWhile_append, none]
  split
  · rw [List.append_nil, Base64.decode_encode]
  · rw [Framing.decode_takeWhile_encode, Base64.decode_encode]

/-! ## One mail -/

theorem mailBody_of_line {line : Str} (plain : newline ∉ line) (rest : Str) :
    mailBody false (line ++ newline :: rest) = mailBody true rest := by
  induction line with
  | nil => rfl
  | cons c line ih =>
    rw [List.mem_cons, not_or] at plain
    have other : (c == newline) = false := by simpa using Ne.symm plain.1
    rw [List.cons_append, mailBody, if_neg (by simp), other]
    exact ih plain.2

/-- A line that is not empty is a header. -/
theorem mailBody_of_header {name : Str} (named : name ≠ []) {value : Str}
    (plainName : newline ∉ name) (plainValue : newline ∉ value) (rest : Str) :
    mailBody true (name ++ value ++ newline :: rest) = mailBody true rest := by
  obtain ⟨c, name, rfl⟩ := List.exists_cons_of_ne_nil named
  rw [List.mem_cons, not_or] at plainName
  have other : (c == newline) = false := by simpa using Ne.symm plainName.1
  rw [List.cons_append, List.cons_append, mailBody, if_neg (fun first => plainName.1 first.1.symm),
    other]
  apply mailBody_of_line
  simp [plainName.2, plainValue]

/-- The body is what was given as the body. -/
theorem mailBody_messBody {mUserMail addressTo : Str} (plainUser : newline ∉ mUserMail)
    (plainAddress : newline ∉ addressTo) (body : Str) :
    mailBody true (GmailApi.messBody mUserMail addressTo body) = body := by
  have lines : GmailApi.messBody mUserMail addressTo body =
      str "From: " ++ mUserMail ++ newline :: (str "To: " ++ addressTo ++ newline ::
        (str "Subject: " ++ str "sequre-dialogues" ++ newline :: newline :: body)) := by
    simp [GmailApi.messBody, str]
  rw [lines, mailBody_of_header (by decide) (by decide) plainUser,
    mailBody_of_header (by decide) (by decide) plainAddress,
    mailBody_of_header (by decide) (by decide) (by decide)]
  simp [mailBody]

/-- What `GmailMessageCommunicator::send` hands to libcurl. -/
def GmailMessageCommunicator.transfer (world : GmailWorld)
    (mUserMail authHeaderName authToken addressTo message : Str) : Except CurlError Transfer :=
  GmailApi.messageTransfer world mUserMail (cstr addressTo) (Framing.encoded message) authHeaderName
    authToken

/-- The mail has the body of a sent one, perhaps with further ends of lines. -/
def Mail.IsOf (mail : Mail) (transfer : Transfer) : Prop :=
  ∃ ending : Str, (∀ c ∈ ending, c = 13 ∨ c = newline) ∧
    mail.body = mailBody true (transfer.postFields.getD []) ++ ending

/-- The texts that make a mail of the expected form. -/
structure IsMailable (mUserMail addressTo message : Str) : Prop where
  noNul : (0 : UInt8) ∉ message
  small : message.length < 2 ^ 30
  user : (0 : UInt8) ∉ mUserMail ∧ newline ∉ mUserMail
  address : newline ∉ addressTo

theorem body_of_isOf {world : GmailWorld} {mUserMail authHeaderName authToken addressTo message : Str}
    (mailable : IsMailable mUserMail addressTo message) {transfer : Transfer}
    (made : GmailMessageCommunicator.transfer world mUserMail authHeaderName authToken addressTo
      message = .ok transfer) {mail : Mail} (isOf : mail.IsOf transfer) :
    ∃ ending : Str, (∀ c ∈ ending, c = 13 ∨ c = newline) ∧
      mail.body = Base64.encode message ++ ending := by
  obtain ⟨noNul, small, ⟨cleanUser, plainUser⟩, plainAddress⟩ := mailable
  obtain ⟨ending, ends, body⟩ := isOf
  refine ⟨ending, ends, ?_⟩
  unfold GmailMessageCommunicator.transfer GmailApi.messageTransfer at made
  obtain ⟨_, _, made⟩ := except_bind_eq_ok.mp made
  obtain ⟨_, _, made⟩ := except_bind_eq_ok.mp made
  obtain ⟨_, _, made⟩ := except_bind_eq_ok.mp made
  obtain ⟨_, _, made⟩ := except_bind_eq_ok.mp made
  cases made
  have plainAddress' : newline ∉ cstr addressTo :=
    fun member => plainAddress ((List.takeWhile_prefix _).subset member)
  have digits : (0 : UInt8) ∉ Base64.encode message := by
    intro member
    rcases Base64.mem_encode member with ⟨n, small, same⟩ | same
    · revert same
      revert n
      decide
    · cases same
  have clean : (0 : UInt8) ∉ GmailApi.messBody mUserMail (cstr addressTo) (Base64.encode message) := by
    simp [GmailApi.messBody, str, cleanUser, zero_notMem_cstr, digits]
  rw [body, HttpRequest.postTransfer, Option.getD_some, Framing.encoded_eq noNul small,
    cstr_of_notMem clean, mailBody_messBody plainUser plainAddress']

/-- What is made of the resource of a mail of somebody else that is not too old. -/
theorem readMail_eq {world : GmailWorld} {user : Str} {mail : Mail} {json : Json}
    (shown : mail.IsShown json) (fresh : GmailApi.isMessageOld world mail.internalDate.toInt = false)
    (other : user ≠ mail.address) (nonempty : mail.body ≠ []) :
    GmailApi.readMail world user json =
      .ok (mail.address, Framing.base64_decode ((Base64.encode mail.body).map urlSafe)) := by
  obtain ⟨⟨payload, headers, header, isPayload, isHeaders, found, value⟩,
    ⟨payload', content, isPayload', isContent, size, mimeType, data⟩, time⟩ := shown
  cases isPayload.symm.trans isPayload'
  have number := stol_printInt mail.internalDate
  have some' : ((mail.body.length : Int) == 0) = false := by simpa using nonempty
  unfold GmailApi.readMail
  simp only [isPayload, isHeaders, time, found, value, isContent, size, mimeType, data, number,
    fresh, ofJson, ofNumber, Json.toText, Json.isNumber, Json.isText, bind, Except.bind, some', pure,
    Except.pure]
  rw [if_neg (by simp), if_neg]
  · rfl
  · rintro (otherType | same)
    · simp at otherType
    · exact other same

/-- What is decoded of the mail of a sent text is the text. -/
theorem message_readMail {world : GmailWorld} {user message : Str} {mail : Mail} {json : Json}
    (shown : mail.IsShown json) (fresh : GmailApi.isMessageOld world mail.internalDate.toInt = false)
    (other : user ≠ mail.address) (nonempty : message ≠ []) {ending : Str}
    (ends : ∀ c ∈ ending, c = 13 ∨ c = newline) (body : mail.body = Base64.encode message ++ ending) :
    ∃ text, GmailApi.readMail world user json = .ok (mail.address, text) ∧
      Framing.base64_decode text = message := by
  have harmless : ∀ c ∈ mail.body, isHarmless c = true := by
    intro c member
    rw [body, List.mem_append] at member
    rcases member with digit | ending
    · exact isHarmless_of_mem_encode digit
    · rcases ends c ending with rfl | rfl <;> decide
  have digits : Base64.encode message ≠ [] := by
    intro none
    have decoded := Base64.decode_encode message
    rw [none] at decoded
    exact nonempty decoded.symm
  refine ⟨mail.body, ?_, ?_⟩
  · rw [readMail_eq shown fresh other (by simp [body, digits]), map_urlSafe_encode harmless,
      base64_decode_encode]
  · rw [body]
    apply base64_decode_append
    intro c member
    rcases ends c member with rfl | rfl <;> decide

/-! ## Every run -/

/-- The address of the resource of a mail. -/
def mailAddress (user id : Str) : Str :=
  str "https://www.googleapis.com/gmail/v1/users/" ++ UrlEncoding.encode user ++ str "/messages/" ++
    UrlEncoding.encode id

/-- libcurl escapes as it is documented to, and the service shows the mails. -/
structure GmailWorld.Shows (world : GmailWorld) (user : Str) (mails : Str → Mail) : Prop where
  escapes : world.curl.Escapes
  shows : ∀ id transfer text body, world.curl.perform transfer = .ok (httpCodeOk, text) →
    world.parse text = .ok body → (target transfer.url).1 = mailAddress user id →
    (mails id).IsShown body

namespace GmailApi

/-- The mail was made of a text for the user that somebody else has sent. -/
def IsPosted (user : Str) (mail : Mail) (text : Str) : Prop :=
  text ≠ [] ∧ user ≠ mail.address ∧ ∃ world mUserMail authHeaderName authToken addressTo transfer,
    IsMailable mUserMail addressTo text ∧
    GmailMessageCommunicator.transfer world mUserMail authHeaderName authToken addressTo text =
      .ok transfer ∧ mail.IsOf transfer

variable (user : Str) (mails : Str → Mail) (texts : Str → Str)

/-- The poll gets the mails from the service, and no new one of them is too old. -/
def IsServed (s : State) : Move → Prop
  | .poll poll => ∃ world authHeaderName authToken, world.Shows user mails ∧
    (∀ id ∈ s.fresh, id.length < 2 ^ 31 ∧ IsPosted user (mails id) (texts id) ∧
      isMessageOld world (mails id).internalDate.toInt = false) ∧
    ∀ id, poll.answers (.getMail id) = true →
      getMail world id authHeaderName authToken user = .ok (poll.mail id)
  | _ => True

/-- A poll after one that saw a message returns the texts that came since, with the addresses of their
senders, unless a request fails. -/
def ReadsTexts (s : State) : Move → Prop
  | .poll poll => s.mLastMessage ≠ [] →
    match getMessages s poll with
    | .ok (_, messages) => messages.map (fun message =>
        (message.1, Framing.base64_decode message.2)) =
      (s.fresh.map fun id => ((mails id).address, texts id)).reverse
    | .error e => e = .requestFailed
  | _ => True

variable {user mails texts}

theorem parseResponse_eq_ok {world : GmailWorld} {response : Int × Str} {body : Json}
    (parsed : parseResponse world response = .ok body) :
    response.1 = httpCodeOk ∧ world.parse response.2 = .ok body := by
  unfold parseResponse at parsed
  split at parsed
  · cases parsed
  · rename_i success
    exact ⟨not_not.mp success, ofJson_eq_ok.mp parsed⟩

/-- The address that `getMail` asks. -/
theorem target_getMail {world : GmailWorld} (escapes : world.curl.Escapes) (small : user.length < 2 ^ 31)
    {id : Str} (smallId : id.length < 2 ^ 31) {first second third : UriBuilder}
    (pathed : (UriBuilder.ofPath (str "https://www.googleapis.com/gmail/v1/users")).appendPath
      world.curl user = .ok first)
    (pathed' : first.appendPath world.curl (str "messages") = .ok second)
    (pathed'' : second.appendPath world.curl id = .ok third) :
    (target (cstr third.getUri)).1 = mailAddress user id := by
  have plain : UrlEncoding.encode (str "messages") = str "messages" := by decide
  have path : third.mPath = mailAddress user id := by
    rw [UriBuilder.mPath_of_appendPath escapes smallId pathed'',
      UriBuilder.mPath_of_appendPath escapes (by decide) pathed',
      UriBuilder.mPath_of_appendPath escapes small pathed, plain]
    simp [mailAddress, UriBuilder.ofPath, str]
  have clean : ∀ c, UrlEncoding.isUnreserved c = false → c ≠ 37 →
      c ∉ str "https://www.googleapis.com/gmail/v1/users/" ++ str "/messages/" →
      c ∉ mailAddress user id := by
    intro c reserved percent outside
    rw [List.mem_append, not_or] at outside
    simp only [mailAddress, List.mem_append, not_or]
    exact ⟨⟨⟨outside.1, UrlEncoding.notMem_encode reserved percent user⟩, outside.2⟩,
      UrlEncoding.notMem_encode reserved percent id⟩
  rw [UriBuilder.target_path] <;> rw [path]
  · simp [mailAddress, str]
  · exact clean 63 (by decide) (by decide) (by decide)
  · exact clean 0 (by decide) (by decide) (by decide)

/-- What `getMail` returns for the mail of a text. -/
theorem decoded_of_getMail {world : GmailWorld} (shows : world.Shows user mails)
    (small : user.length < 2 ^ 31) {id authHeaderName authToken : Str} (smallId : id.length < 2 ^ 31)
    (posted : IsPosted user (mails id) (texts id))
    (fresh : isMessageOld world (mails id).internalDate.toInt = false) {message : Str × Str}
    (returned : getMail world id authHeaderName authToken user = .ok message) :
    (message.1, Framing.base64_decode message.2) =
      ((mails id).address, texts id) := by
  unfold getMail at returned
  obtain ⟨first, pathed, returned⟩ := except_bind_eq_ok.mp returned
  obtain ⟨second, pathed', returned⟩ := except_bind_eq_ok.mp returned
  obtain ⟨third, pathed'', returned⟩ := except_bind_eq_ok.mp returned
  obtain ⟨⟨code, text⟩, response, returned⟩ := except_bind_eq_ok.mp returned
  obtain ⟨json, parsed, read⟩ := except_bind_eq_ok.mp returned
  obtain ⟨rfl, isJson⟩ := parseResponse_eq_ok parsed
  have goes := target_getMail shows.escapes small smallId (ofCurl_eq_ok.mp pathed)
    (ofCurl_eq_ok.mp pathed') (ofCurl_eq_ok.mp pathed'')
  have shown := shows.shows id _ text json (ofCurl_eq_ok.mp response) isJson goes
  obtain ⟨nonempty, other, _, _, _, _, _, transfer, mailable, made, isOf⟩ := posted
  obtain ⟨ending, ends, body⟩ := body_of_isOf mailable made isOf
  obtain ⟨text', reads, decoded⟩ := message_readMail shown fresh other nonempty ends body
  rw [reads] at read
  cases read
  rw [decoded]

/-- Whatever comes before the remembered message is asked for. -/
theorem getMail_mem_requests {mLastMessage id : Str} {pages : List (List Str)} {page : Nat}
    (member : id ∈ (reachable pages).takeWhile (· ≠ mLastMessage)) :
    .getMail id ∈ requests mLastMessage page pages := by
  induction pages generalizing page with
  | nil => cases member
  | cons messages pages ih =>
    by_cases filled : messages = []
    · subst filled
      cases member
    rw [reachable_cons filled] at member
    rw [requests_cons filled]
    apply List.mem_cons_of_mem
    rw [List.mem_append]
    by_cases met : mLastMessage ∈ messages
    · rw [takeWhile_append_of_mem met] at member
      exact .inl (List.mem_map_of_mem member)
    · rw [List.takeWhile_append_of_pos (passes_of_notMem met), List.mem_append] at member
      rw [if_neg met, List.takeWhile_eq_self_iff.mpr (passes_of_notMem met)]
      exact member.imp List.mem_map_of_mem ih

/-- A poll that returns has got every new message that it returns. -/
theorem answers_of_returned {s : State} (invariant : Invariant s) {poll : Poll}
    (remembers : s.mLastMessage ≠ []) (meets : MeetsLast s (.poll poll)) {last : Str}
    {messages : List (Str × Str)} (returned : getMessages s poll = .ok (last, messages)) {id : Str}
    (member : id ∈ s.fresh) : poll.answers (.getMail id) = true := by
  have answered : ∀ request ∈ requests s.mLastMessage 0 (s.pages poll),
      poll.answers request = true := by
    intro request asked
    by_contra fails
    have fails : getMessages s poll = .error .requestFailed :=
      loadMessages_of_fails remembers [] ⟨request, asked, by simpa using fails⟩
    rw [fails] at returned
    cases returned
  apply answered
  apply getMail_mem_requests
  rcases meets remembers with met | ⟨-, same⟩ | ⟨request, asked, fails⟩
  · rw [takeWhile_reachable_of_met invariant met]
    exact member
  · rw [same, List.takeWhile_eq_self_iff.mpr (passes_of_notMem invariant.unread)]
    exact member
  · rw [answered request asked] at fails
    cases fails

theorem readsTexts {s : State} (invariant : Invariant s) (small : user.length < 2 ^ 31) {move : Move}
    (meets : MeetsLast s move) (served : IsServed user mails texts s move) :
    ReadsTexts mails texts s move := by
  cases move with
  | arrive id => trivial
  | lose id => trivial
  | poll poll =>
    intro remembers
    obtain ⟨world, authHeaderName, authToken, shows, new, gets⟩ := served
    have reads := (readsFresh_iff invariant (.poll poll)).mpr meets remembers
    cases outcome : getMessages s poll with
    | error e =>
      rw [outcome] at reads
      exact reads.1
    | ok result =>
      obtain ⟨last, messages⟩ := result
      rw [outcome] at reads
      have reads : messages = (s.fresh.map poll.mail).reverse := reads
      show messages.map _ = _
      rw [reads, List.map_reverse, List.map_map, List.reverse_inj]
      apply List.map_congr_left
      intro id member
      obtain ⟨smallId, posted, fresh⟩ := new id member
      have answered := answers_of_returned invariant remembers meets outcome member
      exact decoded_of_getMail shows small smallId posted fresh (gets id answered)

end GmailApi

/-- In every run in which each poll meets the remembered message and no new mail is too old, each poll
after one that saw a message returns mails that decode to the texts that came since, the oldest first,
with the addresses of their senders. -/
theorem gmail_texts_arrive (user : Str) (small : user.length < 2 ^ 31) (mails : Str → Mail)
    (texts : Str → Str) (moves : List GmailApi.Move)
    (meets : Run.Along GmailApi.next GmailApi.MeetsLast GmailApi.State.initial moves)
    (served : Run.Along GmailApi.next (GmailApi.IsServed user mails texts) GmailApi.State.initial
      moves) :
    Run.Along GmailApi.next (GmailApi.ReadsTexts mails texts) GmailApi.State.initial moves := by
  apply Run.along_of_invariant (I := GmailApi.Invariant) _ _ GmailApi.Invariant.initial
    (meets.and served)
  · intro s move invariant _
    exact invariant.next move
  · rintro s move invariant ⟨meets, served⟩
    exact GmailApi.readsTexts invariant small meets served

namespace Sample

/-- The mail of the text `Hi`. -/
def mail : Mail where
  sender := str "Peer <peer@mail>"
  body := str "SGk="
  internalDate := 0

/-- A service that shows this mail only. -/
def gmailWorld : GmailWorld where
  curl := {
    handler := true
    escape := fun text length =>
      some (UrlEncoding.encode (if length = 0 then cstr text else text.take length.toNat))
    perform := fun _ => .ok (httpCodeOk, []) }
  parse _ := .ok (.object [(str "internalDate", .string (str "0")), (str "payload", .object [
    (str "headers", .array [.object [(str "name", .string (str "From")),
      (str "value", .string (str "Peer <peer@mail>"))]]),
    (str "mimeType", .string (str "text/plain")),
    (str "body", .object [(str "size", .number 4), (str "data", .string (str "U0drPQ=="))])])])
  systemClock := 0

def gmailPoll : GmailApi.Poll where
  sizes := []
  answers _ := true
  mail _ := (str "peer@mail", str "SGk=")

/-- A mail has arrived before the first poll, and another one after it. -/
def gmailMoves : List GmailApi.Move :=
  [.arrive (str "a"), .poll gmailPoll, .arrive (str "b"), .poll gmailPoll]

theorem shows_gmailWorld : gmailWorld.Shows (str "me@mail") fun _ => mail where
  escapes := {
    counted := by
      intro text length output escaped positive
      have nonzero : length ≠ 0 := by
        rintro rfl
        exact absurd positive (by decide)
      cases escaped
      rw [if_neg nonzero]
    terminated := by
      intro text output escaped
      cases escaped
      rfl }
  shows := by
    intro id transfer text body performed parsed _
    cases performed
    cases parsed
    have digits : (Base64.encode mail.body).map urlSafe = str "U0drPQ==" := by decide +kernel
    have time : printInt mail.internalDate.toInt = str "0" := by decide +kernel
    refine ⟨⟨_, _, _, rfl, rfl, rfl, rfl⟩, ⟨_, _, rfl, rfl, rfl, rfl, ?_⟩, ?_⟩
    · rw [digits]
      rfl
    · rw [time]
      rfl

theorem isPosted_mail : GmailApi.IsPosted (str "me@mail") mail (str "Hi") := by
  refine ⟨by decide, by decide, gmailWorld, str "peer@mail", [], [], str "me@mail", _,
    ⟨by decide, by decide, by decide, by decide⟩, rfl, [], by simp, ?_⟩
  decide +kernel

/-- Both mails are served by this service. -/
theorem isServed_gmailMoves : Run.Along GmailApi.next
    (GmailApi.IsServed (str "me@mail") (fun _ => mail) fun _ => str "Hi") GmailApi.State.initial
    gmailMoves := by
  have served : ∀ s : GmailApi.State, (∀ id ∈ s.fresh, id.length < 2 ^ 31) →
      GmailApi.IsServed (str "me@mail") (fun _ => mail) (fun _ => str "Hi") s
        (.poll gmailPoll) := by
    intro s small
    refine ⟨gmailWorld, [], [], shows_gmailWorld, ?_, ?_⟩
    · intro id member
      refine ⟨small id member, isPosted_mail, ?_⟩
      show GmailApi.isMessageOld gmailWorld mail.internalDate.toInt = false
      decide
    · intro id _
      rfl
  refine ⟨trivial, served _ ?_, trivial, served _ ?_, trivial⟩ <;> decide +kernel

end Sample

/-- The text of the second mail is returned. -/
theorem sample_gmail_texts_arrive :
    Run.Along GmailApi.next (GmailApi.ReadsTexts (fun _ => Sample.mail) fun _ => str "Hi")
      GmailApi.State.initial Sample.gmailMoves := by
  apply gmail_texts_arrive (str "me@mail") (by decide) (fun _ => Sample.mail) (fun _ => str "Hi")
    Sample.gmailMoves
  · refine ⟨trivial, ?_, trivial, ?_, trivial⟩
    · intro remembers
      exact absurd (show _ = [] by decide +kernel) remembers
    · intro _
      exact .inl (by decide +kernel)
  · exact Sample.isServed_gmailMoves

end SecureDialogues
