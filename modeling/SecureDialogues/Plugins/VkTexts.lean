import SecureDialogues.Plugins.VkInbox

/-!
# Texts over VK

A text goes through `VkMessageCommunicator::send`, which encodes it in base64 and in a form, through
the service, which makes an update for the receiver of it, and through the long polling and
`RecievedMessagesIteratorImpl` of the receiver. Over every run of senders and receiver the decoded
texts that come out are the ones that were put in.
-/

namespace SecureDialogues

open Text Effect

/-! ## Sending -/

/-- What `VkMessageCommunicator::send` hands to libcurl. -/
def VkMessageCommunicator.transfer (world : VkWorld) (communicator : VkMessageCommunicator)
    (addressTo message : Str) : Except CurlError Transfer :=
  VkApi.messageTransfer world (str "access_token") communicator.mAccessToken (cstr addressTo)
    (Framing.encoded message)

/-- What a message of a sender says: the text, of which libcurl can count the encoding, and an
address and a token that it can count. -/
structure IsSendable (communicator : VkMessageCommunicator) (addressTo message : Str) : Prop where
  noNul : (0 : UInt8) ∉ message
  small : message.length < 2 ^ 30
  address : addressTo.length < 2 ^ 31
  token : communicator.mAccessToken.length < 2 ^ 31

/-- A server reads the fields of the form as they were given. -/
theorem form_transfer {world : VkWorld} (escapes : world.curl.Escapes)
    {communicator : VkMessageCommunicator} {addressTo message : Str}
    (sendable : IsSendable communicator addressTo message) {transfer : Transfer}
    (made : communicator.transfer world addressTo message = .ok transfer) :
    transfer.form = VkApi.messageForm world (str "access_token") communicator.mAccessToken
      (cstr addressTo) (Base64.encode message) := by
  obtain ⟨noNul, smallText, smallAddress, smallToken⟩ := sendable
  have address := cstr_length_le addressTo
  have digits := VkApi.length_printNat_le world.randomId
  have body := Framing.length_encode message
  have small : ∀ entry ∈ VkApi.messageForm world (str "access_token") communicator.mAccessToken
      (cstr addressTo) (Base64.encode message),
      entry.1.length < 2 ^ 31 ∧ entry.2.length < 2 ^ 31 := by
    simp only [VkApi.messageForm, List.mem_cons, List.not_mem_nil, or_false]
    rintro entry (rfl | rfl | rfl | rfl | rfl | rfl) <;> constructor <;> dsimp only <;>
      first | omega | simp [str]
  rw [VkMessageCommunicator.transfer, Framing.encoded_eq noNul smallText] at made
  obtain ⟨builder, built, made⟩ := except_bind_eq_ok.mp made
  cases made
  exact UriBuilder.form_postTransfer escapes small built _ _

/-- A send that is reported as successful has handed the form to libcurl, and was answered. -/
theorem transfer_of_send {world : VkWorld} {communicator : VkMessageCommunicator}
    {addressTo message : Str} (sent : communicator.send world addressTo message = .noError) :
    ∃ transfer text, communicator.transfer world addressTo message = .ok transfer ∧
      world.curl.perform transfer = .ok (httpCodeOk, text) := by
  unfold VkMessageCommunicator.send at sent
  split at sent
  · rename_i returned
    obtain ⟨transfer, made, returned⟩ := except_bind_eq_ok.mp returned
    obtain ⟨⟨code, text⟩, performed, returned⟩ := except_bind_eq_ok.mp returned
    obtain ⟨json, parsed, -⟩ := except_bind_eq_ok.mp returned
    obtain ⟨rfl, -⟩ := VkApi.parseResponse_eq_ok parsed
    exact ⟨transfer, text, ofCurl_eq_ok.mp made, ofCurl_eq_ok.mp performed⟩
  · rename_i e _
    cases e with
    | curl e => cases e <;> cases sent
    | _ => cases sent

/-! ## The service -/

/-- The service as it makes updates of forms. -/
structure VkService where
  update : (sender : BitVec 32) → (form : List (Str × Str)) → Json

/-- The characters that the service leaves as they are in a text. -/
def isPlainCharacter (c : UInt8) : Bool := Framing.is_base64 c || c == Base64.padding

/-- The update for a message is an incoming message of its sender, and has the text of the form if
no character of it has to be replaced. -/
def VkService.Relays (service : VkService) : Prop :=
  ∀ sender form text, form.lookup (str "message") = some text →
    (∀ c ∈ text, isPlainCharacter c = true) →
    VkInbox.message? (service.update sender form) = some (printInt sender.toInt, text)

theorem isPlainCharacter_of_mem_encode {text : Str} {c : UInt8} (member : c ∈ Base64.encode text) :
    isPlainCharacter c = true := by
  rw [isPlainCharacter, Framing.is_base64_eq]
  rcases Base64.mem_encode member with ⟨n, small, rfl⟩ | rfl
  · rw [Base64.value_digit small]
    rfl
  · decide

/-! ## Runs -/

/-- The receiver, and for each update the sender's address and the text if it carries one. -/
structure VkTalk where
  inbox : VkInbox
  posted : List (Option (Str × Str))

/-- What can happen: the transfer of a text reaches the service, the user gets another update, and
the receiver connects or polls. -/
inductive VkTalkMove where
  | post (world : VkWorld) (communicator : VkMessageCommunicator) (sender : BitVec 32)
    (addressTo text : Str)
  | other (update : Json)
  | connect (accessToken : Str)
  | recieve (world : VkWorld)

namespace VkTalk

variable (service : VkService)

def next (s : VkTalk) : VkTalkMove → VkTalk
  | .post world communicator sender addressTo text =>
    match communicator.transfer world addressTo text with
    | .ok transfer => {
        inbox := s.inbox.next (.publish (service.update sender transfer.form))
        posted := s.posted ++ [some (printInt sender.toInt, text)] }
    | .error _ => s
  | .other update => {
      inbox := s.inbox.next (.publish update)
      posted := s.posted ++ [none] }
  | .connect accessToken => { s with inbox := s.inbox.next (.connect accessToken) }
  | .recieve world => { s with inbox := s.inbox.next (.recieve world) }

/-- libcurl and the service do as they are documented to, the texts can be sent, and the other updates
are no incoming messages. -/
def IsServed (s : VkTalk) : VkTalkMove → Prop
  | .post world communicator _ addressTo text =>
    world.curl.Escapes ∧ IsSendable communicator addressTo text
  | .other update => VkInbox.message? update = none
  | .connect _ => True
  | .recieve world => world.Serves s.inbox.history

/-- What the receiver makes of a returned message: its address and the decoded text. -/
def decoded (message : Str × Str) : Str × Str :=
  (message.1, Framing.base64_decode message.2)

variable {service}

/-- What each update carries. -/
def IsAligned (s : VkTalk) : Prop :=
  s.inbox.history.map (fun update => (VkInbox.message? update).map decoded) = s.posted

/-- The update that is made of a sent text carries it. -/
theorem decoded_update (relays : service.Relays) {world : VkWorld} (escapes : world.curl.Escapes)
    {communicator : VkMessageCommunicator} {addressTo text : Str}
    (sendable : IsSendable communicator addressTo text) {transfer : Transfer}
    (made : communicator.transfer world addressTo text = .ok transfer) (sender : BitVec 32) :
    (VkInbox.message? (service.update sender transfer.form)).map decoded =
      some (printInt sender.toInt, text) := by
  have field : transfer.form.lookup (str "message") = some (Base64.encode text) := by
    rw [form_transfer escapes sendable made]
    rfl
  rw [relays sender _ _ field fun c member => isPlainCharacter_of_mem_encode member]
  have arrives := Framing.base64_decode_encoded sendable.noNul sendable.small
  rw [Framing.encoded_eq sendable.noNul sendable.small] at arrives
  rw [Option.map_some, decoded, arrives]

theorem isAligned_next (relays : service.Relays) {s : VkTalk} {move : VkTalkMove}
    (served : s.IsServed move) (aligned : s.IsAligned) : (s.next service move).IsAligned := by
  cases move with
  | post world communicator sender addressTo text =>
    cases made : communicator.transfer world addressTo text with
    | error e =>
      simp only [next, made]
      exact aligned
    | ok transfer =>
      simp only [next, made, IsAligned, VkInbox.next, List.map_append, List.map_singleton]
      rw [aligned, decoded_update relays served.1 served.2 made sender]
  | other update =>
    have none : VkInbox.message? update = none := served
    simp only [next, IsAligned, VkInbox.next, List.map_append, List.map_singleton, none]
    rw [aligned]
    rfl
  | connect accessToken => exact aligned
  | recieve world => exact aligned

/-- The decoded messages among some updates are the texts that they carry. -/
theorem map_between {s : VkTalk} (aligned : s.IsAligned) (n m : Nat) :
    (Subscription.between VkInbox.message? s.inbox.history n m).map decoded =
      ((s.posted.take m).drop n).filterMap id := by
  rw [← aligned, ← List.map_take, ← List.map_drop, List.filterMap_map, Subscription.between,
    List.map_filterMap]
  rfl

/-- The receiver's part of a move. -/
def inboxMoves (service : VkService) : VkTalkMove → List VkMove
  | .post world communicator sender addressTo text =>
    match communicator.transfer world addressTo text with
    | .ok transfer => [.publish (service.update sender transfer.form)]
    | .error _ => []
  | .other update => [.publish update]
  | .connect accessToken => [.connect accessToken]
  | .recieve world => [.recieve world]

theorem inbox_next (s : VkTalk) (move : VkTalkMove) :
    (s.next service move).inbox = Run.after VkInbox.next s.inbox (inboxMoves service move) := by
  cases move with
  | post world communicator sender addressTo text =>
    simp only [next, inboxMoves]
    cases communicator.transfer world addressTo text <;> rfl
  | _ => rfl

theorem served_inboxMoves {s : VkTalk} {move : VkTalkMove} (served : s.IsServed move) :
    Run.Along VkInbox.next VkInbox.IsServed s.inbox (inboxMoves service move) := by
  cases move with
  | post world communicator sender addressTo text =>
    simp only [inboxMoves]
    cases communicator.transfer world addressTo text with
    | ok transfer => exact ⟨trivial, trivial⟩
    | error e => trivial
  | other update => exact ⟨trivial, trivial⟩
  | connect accessToken => exact ⟨trivial, trivial⟩
  | recieve world => exact ⟨served, trivial⟩

/-- The receiver runs as it does without the senders. -/
theorem inbox_after (s : VkTalk) (moves : List VkTalkMove) :
    (Run.after (next service) s moves).inbox =
      Run.after VkInbox.next s.inbox (moves.flatMap (inboxMoves service)) := by
  induction moves generalizing s with
  | nil => rfl
  | cons move rest ih =>
    rw [List.flatMap_cons, Run.after_append, ← inbox_next]
    exact ih (s.next service move)

theorem served_after {s : VkTalk} {moves : List VkTalkMove}
    (served : Run.Along (next service) IsServed s moves) :
    Run.Along VkInbox.next VkInbox.IsServed s.inbox (moves.flatMap (inboxMoves service)) := by
  induction moves generalizing s with
  | nil => trivial
  | cons move rest ih =>
    rw [List.flatMap_cons, Run.along_append, ← inbox_next]
    exact ⟨served_inboxMoves served.1, ih served.2⟩

/-- The receiver stays connected and reads whatever it gets. -/
def IsSmooth : VkTalkMove → Prop
  | .connect _ => False
  | .recieve world => world.IsSmooth
  | _ => True

theorem smooth_inboxMoves {move : VkTalkMove} (smooth : IsSmooth move) :
    ∀ part ∈ inboxMoves service move, VkInbox.IsSmooth part := by
  cases move with
  | post world communicator sender addressTo text =>
    simp only [inboxMoves]
    cases communicator.transfer world addressTo text <;> simp [VkInbox.IsSmooth]
  | other update => simp [inboxMoves, VkInbox.IsSmooth]
  | connect accessToken => exact smooth.elim
  | recieve world =>
    intro part member
    rw [List.mem_singleton.mp member]
    exact smooth

/-- A user without updates, and a receiver that has just been connected. -/
def initial (accessToken : Str) : VkTalk where
  inbox := .initial [] accessToken
  posted := []

/-- A run of the senders and the receiver. -/
abbrev run (service : VkService) (accessToken : Str) (moves : List VkTalkMove) : VkTalk :=
  Run.after (next service) (.initial accessToken) moves

end VkTalk

/-- From any moment on at which the receiver is connected, as long as it stays connected, no answer
is a failure and all updates are of the expected form, the decoded messages that it gets are the
texts that were sent between the numbers it has read then and last, each once and in order. -/
theorem vk_texts_arrive {service : VkService} (relays : service.Relays) (accessToken : Str)
    (before later : List VkTalkMove)
    (served : Run.Along (VkTalk.next service) VkTalk.IsServed (.initial accessToken)
      (before ++ later))
    (smooth : ∀ move ∈ later, VkTalk.IsSmooth move) {n : Nat}
    (connected : (VkTalk.run service accessToken before).inbox.view.position = some n) :
    ∃ m, (VkTalk.run service accessToken (before ++ later)).inbox.view.position = some m ∧
      n ≤ m ∧ m ≤ (VkTalk.run service accessToken (before ++ later)).posted.length ∧
      (VkTalk.run service accessToken (before ++ later)).inbox.delivered.map VkTalk.decoded =
        (VkTalk.run service accessToken before).inbox.delivered.map VkTalk.decoded ++
        (((VkTalk.run service accessToken (before ++ later)).posted.take m).drop n).filterMap id := by
  have start : (VkTalk.initial accessToken).IsAligned := rfl
  have aligned : (VkTalk.run service accessToken (before ++ later)).IsAligned :=
    Run.invariant_after (fun s move aligned served => VkTalk.isAligned_next relays served aligned)
      start served
  rw [Run.along_append] at served
  obtain ⟨consistent, -⟩ := VkInbox.steps_after (VkTalk.served_after served.1) (.inl rfl)
  rw [← VkTalk.inbox_after] at consistent
  have quiet : ∀ part ∈ later.flatMap (VkTalk.inboxMoves service), VkInbox.IsSmooth part := by
    intro part member
    obtain ⟨move, inside, member⟩ := List.mem_flatMap.mp member
    exact VkTalk.smooth_inboxMoves (smooth move inside) part member
  have steps := VkInbox.quietSteps_after (VkTalk.served_after served.2) quiet consistent connected
  rw [← VkTalk.inbox_after, ← Run.after_append] at steps
  obtain ⟨m, here, forth, known, -, delivered⟩ :=
    steps.continues n connected (consistent.known connected)
  have lengths : (VkTalk.run service accessToken (before ++ later)).posted.length =
      (VkTalk.run service accessToken (before ++ later)).inbox.history.length := by
    rw [← aligned, List.length_map]
  refine ⟨m, here, forth, known.trans_eq lengths.symm, ?_⟩
  rw [← VkTalk.map_between aligned, ← List.map_append]
  exact congrArg _ delivered

namespace Sample

/-- The updates of the service, in its documented form. -/
def vkService : VkService where
  update sender form := .array [.number 4, .number 7, .number 1, .number sender.toInt, .number 0,
    .string ((form.lookup (str "message")).getD [])]

theorem relays_vkService : vkService.Relays := by
  intro sender form text field _
  have number : BitVec.ofInt 32 sender.toInt = sender := BitVec.ofInt_toInt
  simp only [vkService, field, Option.getD_some]
  show some (printInt (BitVec.ofInt 32 sender.toInt).toInt, text) = _
  rw [number]

/-- The receiver connects, a text is sent to it, and it polls. -/
def vkTalk : List VkTalkMove :=
  [.recieve (vkWorld []), .post (vkWorld []) (.connect (str "key")) 42 (str "7") (str "Hi"),
    .recieve (vkWorld [vkUpdate])]

end Sample

/-- The text arrives. -/
theorem sample_texts_arrive :
    (VkTalk.run Sample.vkService (str "token") Sample.vkTalk).inbox.delivered.map VkTalk.decoded =
        [(str "42", str "Hi")] ∧
      ∃ m, (VkTalk.run Sample.vkService (str "token") Sample.vkTalk).inbox.view.position = some m ∧
        0 ≤ m ∧ m ≤ (VkTalk.run Sample.vkService (str "token") Sample.vkTalk).posted.length ∧
        (VkTalk.run Sample.vkService (str "token") Sample.vkTalk).inbox.delivered.map
            VkTalk.decoded =
          (VkTalk.run Sample.vkService (str "token")
            (Sample.vkTalk.take 1)).inbox.delivered.map VkTalk.decoded ++
          (((VkTalk.run Sample.vkService (str "token") Sample.vkTalk).posted.take m).drop
            0).filterMap id := by
  refine ⟨by decide +kernel, ?_⟩
  apply vk_texts_arrive Sample.relays_vkService (str "token") (Sample.vkTalk.take 1)
    (Sample.vkTalk.drop 1)
  · refine ⟨Sample.serves_vkWorld (by decide), ⟨Sample.escapes_vkWorld [], ?_⟩, ?_,
      trivial⟩
    · exact ⟨by decide, by decide, by decide, by decide⟩
    · show (Sample.vkWorld [Sample.vkUpdate]).Serves [Sample.vkUpdate]
      exact Sample.serves_vkWorld (by decide)
  · intro move member
    rcases List.mem_cons.mp member with rfl | member
    · trivial
    · rw [List.mem_singleton.mp member]
      apply Sample.isSmooth_vkWorld
      intro element present
      rw [List.mem_singleton.mp present]
      exact ⟨_, rfl⟩
  · rfl

end SecureDialogues
