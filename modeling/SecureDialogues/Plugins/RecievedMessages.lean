import SecureDialogues.Communication.Channel
import SecureDialogues.Lib.Lifetime
import SecureDialogues.Plugins.Framing

/-!
# Received messages

`RecievedMessagesIteratorImpl` (`plugins-libs/plugin-utils/recievedmessagesiteratorimpl.cpp`) hands the
messages of a plugin to `PluginAdapter::receive` as pointers to characters: the address by a pointer
into its list, the text by a pointer into the temporary that `base64_decode` returns. The strings are
the objects here, and a pointer to the characters of a string is a pointer to the string.
-/

namespace SecureDialogues

open Text Lifetime

/-- `RecievedMessagesIteratorImpl` (`recievedmessagesiteratorimpl.h:36-38`): the messages from the
current one on, each an address and a text. -/
structure RecievedMessagesIteratorImpl where
  mCurrPos : List (Pointer × Pointer)
  mCode : PluginApiErrorCodes

namespace RecievedMessagesIteratorImpl

/-- The constructor of a list (`recievedmessagesiteratorimpl.cpp:4-7`). -/
def ofMessages (messages : List (Str × Str)) : Prog Str RecievedMessagesIteratorImpl := do
  let mMessages ← messages.mapM fun message => do
    pure (← construct message.1, ← construct message.2)
  pure ⟨mMessages, .noError⟩

/-- The constructor of a code (`recievedmessagesiteratorimpl.cpp:9-13`). -/
def ofCode (code : PluginApiErrorCodes) : RecievedMessagesIteratorImpl := ⟨[], code⟩

/-- What the communicators return: an iterator over the messages, or one with the code of a failure. -/
def ofOutcome : Except PluginApiErrorCodes (List (Str × Str)) → Prog Str RecievedMessagesIteratorImpl
  | .ok messages => ofMessages messages
  | .error code => pure (ofCode code)

variable (iterator : RecievedMessagesIteratorImpl)

/-- `RecievedMessagesIteratorImpl::hasNext` (`recievedmessagesiteratorimpl.cpp:15-17`). -/
def hasNext : Bool := !iterator.mCurrPos.isEmpty

/-- `RecievedMessagesIteratorImpl::next` (`recievedmessagesiteratorimpl.cpp:19-21`). -/
def next : RecievedMessagesIteratorImpl := { iterator with mCurrPos := iterator.mCurrPos.tail }

/-- `RecievedMessagesIteratorImpl::error` (`recievedmessagesiteratorimpl.cpp:23-25`). -/
def error : PluginApiErrorCodes := iterator.mCode

/-- `RecievedMessagesIteratorImpl::address` (`recievedmessagesiteratorimpl.cpp:27-29`). -/
def address : Prog Str Pointer :=
  match iterator.mCurrPos with
  | [] => failure
  | (first, _) :: _ => pure first

/-- `base64_decode(mCurrPos->second)` in `RecievedMessagesIteratorImpl::message`. -/
def decoded : Prog Str Str :=
  match iterator.mCurrPos with
  | [] => failure
  | (_, second) :: _ => do pure (Framing.base64_decode (← load second))

/-- `RecievedMessagesIteratorImpl::message` (`recievedmessagesiteratorimpl.cpp:31-33`): the decoded
string lives to the end of the `return` statement. -/
def message : Prog Str Pointer := temporary iterator.decoded pure

end RecievedMessagesIteratorImpl

/-- `std::string(const char*)`. -/
def stdString (pointer : Pointer) : Prog Str Str := do pure (cstr (← load pointer))

namespace PluginAdapter

/-- The loop of `PluginAdapter::receive` (`pluginadapter.cpp:57-62`). -/
def receiveLoop (iter : RecievedMessagesIteratorImpl) : Prog Str (List (Str × Str)) :=
  if _more : iter.hasNext = true then do
    let address ← stdString (← iter.address)
    let message ← stdString (← iter.message)
    let res ← receiveLoop iter.next
    pure ((address, message) :: res)
  else pure []
termination_by iter.mCurrPos.length
decreasing_by
  obtain ⟨_ | ⟨current, rest⟩, code⟩ := iter
  · cases _more
  · simp [RecievedMessagesIteratorImpl.next]

/-- `PluginAdapter::receive` (`pluginadapter.cpp:42-64`), with the iterator of the plugin. -/
def receive (recieve : Prog Str RecievedMessagesIteratorImpl) :
    Prog Str (Except AdapterException (List (Str × Str))) := do
  let iter ← recieve
  match iter.error with
  | .noError => do pure (.ok (← receiveLoop iter))
  | .recieveFailed => pure (.error .other)
  | .disconected => pure (.error .disconected)
  | .notAuthorized => pure (.error .notAuthorized)
  -- `assert(false)`
  | .sendFailed | .invalidAddress => failure

end PluginAdapter

/-! ## What the reader gets -/

/-- A string that is made of the characters at this pointer is this text. -/
def ReadsAs (pointer : Prog Str Pointer) (storage : Storage Str) (text : Str) : Prop :=
  ∃ storage', (pointer >>= stdString) storage = some (text, storage')

namespace RecievedMessagesIteratorImpl

/-- The iterator stands at a message, whose strings are alive. -/
def StandsAt (iterator : RecievedMessagesIteratorImpl) (storage : Storage Str)
    (message : Str × Str) : Prop :=
  ∃ first second rest, iterator.mCurrPos = (first, second) :: rest ∧
    Holds storage first message.1 ∧ Holds storage second message.2

variable {iterator : RecievedMessagesIteratorImpl} {storage : Storage Str} {current : Str × Str}

/-- The pointer of `address` is one into the list, and can be read. -/
theorem reads_address (stands : iterator.StandsAt storage current) (noNul : 0 ∉ current.1) :
    ReadsAs iterator.address storage current.1 := by
  obtain ⟨first, second, rest, position, holds, -⟩ := stands
  refine ⟨storage, bind_eq_some.mpr ⟨first, storage, ?_, ?_⟩⟩
  · rw [address, position]
    rfl
  · refine bind_eq_some.mpr ⟨current.1, storage, holds.load, ?_⟩
    rw [cstr_of_notMem noNul]
    rfl

/-- The string in the `return` statement of `message` is the decoded text. -/
theorem decoded_eq (stands : iterator.StandsAt storage current) :
    iterator.decoded storage = some (Framing.base64_decode current.2, storage) := by
  obtain ⟨first, second, rest, position, -, holds⟩ := stands
  rw [decoded, position]
  exact bind_eq_some.mpr ⟨current.2, storage, holds.load, rfl⟩

variable (iterator storage) in
/-- The pointer of `message` cannot be read, wherever the iterator stands. -/
theorem stdString_message : (iterator.message >>= stdString) storage = none := by
  rw [Option.eq_none_iff_forall_not_mem]
  rintro ⟨text, storage'⟩ read
  obtain ⟨pointer, left, called, read⟩ := bind_eq_some.mp read
  obtain ⟨characters, same, loaded, -⟩ := bind_eq_some.mp read
  rw [load_of_temporary called] at loaded
  cases loaded

/-- The iterator that is made of messages has their strings, which are alive. -/
theorem ofMessages_eq (messages : List (Str × Str)) (storage : Storage Str) :
    ∃ mCurrPos storage', ofMessages messages storage = some (⟨mCurrPos, .noError⟩, storage') ∧
      storage <+: storage' ∧ List.Forall₂ (fun position message =>
        Holds storage' position.1 message.1 ∧ Holds storage' position.2 message.2)
          mCurrPos messages := by
  induction messages generalizing storage with
  | nil => exact ⟨[], storage, rfl, List.prefix_rfl, .nil⟩
  | cons current later ih =>
    let built := storage ++ [some current.1] ++ [some current.2]
    obtain ⟨mCurrPos, storage', made, kept, alive⟩ := ih built
    obtain ⟨positions, between, mapped, same⟩ := bind_eq_some.mp made
    refine ⟨(storage.length, storage.length + 1) :: mCurrPos, storage', ?_, ?_, ?_⟩
    · refine bind_eq_some.mpr ⟨(storage.length, storage.length + 1) :: mCurrPos, storage', ?_, rfl⟩
      rw [List.mapM_cons]
      refine bind_eq_some.mpr ⟨_, built, rfl, bind_eq_some.mpr ⟨mCurrPos, storage', ?_, ?_⟩⟩
      · cases same
        exact mapped
      · simp only [List.length_append, List.length_singleton]
        rfl
    · exact ((List.prefix_append _ _).trans (List.prefix_append _ _)).trans kept
    · refine .cons ⟨?_, ?_⟩ alive
      · exact (holds_construct storage current.1).mono ((List.prefix_append _ _).trans kept)
      · have second := holds_construct (storage ++ [some current.1]) current.2
        rw [List.length_append] at second
        exact second.mono kept

end RecievedMessagesIteratorImpl

open RecievedMessagesIteratorImpl

/-- The adapter returns no message: it has no result as soon as there is one to read. -/
theorem PluginAdapter.receive_eq_none {messages : List (Str × Str)} (some' : messages ≠ [])
    (storage : Storage Str) : PluginAdapter.receive (ofMessages messages) storage = none := by
  rw [Option.eq_none_iff_forall_not_mem]
  intro outcome received
  obtain ⟨iter, storage', made, received⟩ := bind_eq_some.mp received
  obtain ⟨mCurrPos, built, made', -, alive⟩ := ofMessages_eq messages storage
  cases made.symm.trans made'
  obtain ⟨res, read, looped, -⟩ := bind_eq_some.mp received
  have more : hasNext ⟨mCurrPos, .noError⟩ = true := by
    cases alive with
    | nil => exact absurd rfl some'
    | cons => rfl
  rw [PluginAdapter.receiveLoop, dif_pos more] at looped
  obtain ⟨first, between, -, looped⟩ := bind_eq_some.mp looped
  obtain ⟨address, between', -, looped⟩ := bind_eq_some.mp looped
  obtain ⟨second, between'', called, looped⟩ := bind_eq_some.mp looped
  obtain ⟨text, last, copied, -⟩ := bind_eq_some.mp looped
  have undefined := stdString_message ⟨mCurrPos, .noError⟩ between'
  rw [bind_eq_some.mpr ⟨second, between'', called, copied⟩] at undefined
  cases undefined

/-- The adapter returns or throws only where the plugin has no message for it. -/
theorem PluginAdapter.receive_isSome_iff (outcome : Except PluginApiErrorCodes (List (Str × Str)))
    (storage : Storage Str) : (PluginAdapter.receive (ofOutcome outcome) storage).isSome = true ↔
      outcome = .ok [] ∨ ∃ code, outcome = .error code ∧ code ≠ .sendFailed ∧ code ≠ .invalidAddress := by
  have stops : PluginAdapter.receiveLoop (ofCode .noError) = pure [] := by
    rw [PluginAdapter.receiveLoop, dif_neg]
    exact Bool.false_ne_true
  have returned : PluginAdapter.receive (pure (ofCode .noError)) storage =
      some (.ok [], storage) := by
    refine bind_eq_some.mpr ⟨_, _, rfl, bind_eq_some.mpr ⟨[], storage, ?_, rfl⟩⟩
    rw [stops]
    rfl
  have isSome : (PluginAdapter.receive (pure (ofCode .noError)) storage).isSome = true := by
    rw [returned]
    rfl
  cases outcome with
  | ok messages =>
    by_cases empty : messages = []
    · subst empty
      exact iff_of_true isSome (.inl rfl)
    · have undefined := PluginAdapter.receive_eq_none empty storage
      simp [ofOutcome, undefined, empty]
  | error code =>
    cases code with
    | noError => exact iff_of_true isSome (.inr ⟨_, rfl, by decide⟩)
    | disconected => exact iff_of_true rfl (.inr ⟨_, rfl, by decide⟩)
    | notAuthorized => exact iff_of_true rfl (.inr ⟨_, rfl, by decide⟩)
    | recieveFailed => exact iff_of_true rfl (.inr ⟨_, rfl, by decide⟩)
    | sendFailed => exact iff_of_false Bool.false_ne_true (by simp)
    | invalidAddress => exact iff_of_false Bool.false_ne_true (by simp)

section

open Framing

/-- The codec loses nothing, and `message` decodes what was sent, over every transport that leaves
texts as they are; but what it returns points to a string that is destroyed before it is read, so that
no reader gets the text, as it gets the address. -/
theorem sent_texts_dangle {transport : Str → Str → Str × Str}
    (delivers : ∀ addressTo passed, (transport addressTo passed).2 = passed) (addressTo : Str)
    {text : Str} (noNul : 0 ∉ text) (small : text.length < 2 ^ 30) {passed : Str × Str}
    (isSent : passed ∈ [SmtpMessageCommunication.send transport addressTo text,
      GmailMessageCommunicator.send transport addressTo text,
      VkMessageCommunicator.send transport addressTo text]) :
    (∀ bytes : Str, bytes.length < 2 ^ 30 →
      (base64_encode bytes (BitVec.ofNat 32 bytes.length)).length < 2 ^ 31 ∧
      base64_decode (base64_encode bytes (BitVec.ofNat 32 bytes.length)) = bytes) ∧
    (∀ iterator storage, StandsAt iterator storage passed →
      (0 ∉ passed.1 → ReadsAs iterator.address storage passed.1) ∧
      iterator.decoded storage = some (text, storage) ∧ ¬ ReadsAs iterator.message storage text) ∧
    ∀ messages storage, passed ∈ messages →
      PluginAdapter.receive (ofOutcome (.ok messages)) storage = none := by
  have undone : base64_decode passed.2 = text := by
    have sent := base64_decode_send delivers addressTo noNul small
    simp only [List.mem_cons, List.not_mem_nil, or_false] at isSent
    rcases isSent with rfl | rfl | rfl
    · exact sent.1
    · exact sent.2.1
    · exact sent.2.2
  refine ⟨fun bytes small => base64_decode_base64_encode small, ?_, ?_⟩
  · intro iterator storage stands
    refine ⟨reads_address stands, by rw [decoded_eq stands, undone], ?_⟩
    rintro ⟨storage', read⟩
    rw [stdString_message] at read
    cases read
  · intro messages storage member
    rw [← Option.not_isSome_iff_eq_none, PluginAdapter.receive_isSome_iff]
    simp [List.ne_nil_of_mem member]

/-- A text of two letters over Gmail is not received. -/
theorem sent_texts_dangle_short : PluginAdapter.receive (ofOutcome (.ok
    [GmailMessageCommunicator.send (fun _ text => (str "ann@home", text)) (str "bob@home")
      (str "hi")])) [] = none := by
  let transport : Str → Str → Str × Str := fun _ text => (str "ann@home", text)
  have delivers : ∀ addressTo passed, (transport addressTo passed).2 = passed := fun _ _ => rfl
  have noNul : 0 ∉ str "hi" := by decide
  have dangles := sent_texts_dangle delivers (str "bob@home") noNul (by decide)
    (List.mem_cons_of_mem _ List.mem_cons_self)
  exact dangles.2.2 _ [] List.mem_cons_self

/-- The text is decoded, and not read. -/
theorem short_text_dangles : ∃ iterator storage,
    ofMessages [GmailMessageCommunicator.send (fun _ text => (str "ann@home", text)) (str "bob@home")
      (str "hi")] [] = some (iterator, storage) ∧
    iterator.decoded storage = some (str "hi", storage) ∧
    ¬ ReadsAs iterator.message storage (str "hi") := by
  refine ⟨_, _, rfl, by decide, ?_⟩
  rintro ⟨storage', read⟩
  rw [stdString_message] at read
  cases read

end

end SecureDialogues
