import SecureDialogues.Step
import SecureDialogues.Utils.MessageMarshallerProps

/-!
# Signed messages

The messages that the program builds for sending, and what the receiver's signature check makes of
them. `make_ack` alone starts with a signature field that is not empty, so the text that is signed
for an ACK is not the one that is verified.
-/

namespace SecureDialogues

open Text Effect

section

variable {w : Nat}

/-- Where the identifiers of dialogs come from: `make_uiid` encodes them in Base64
(`utils.cpp:6-10`), or they were read from a message. -/
inductive IsDialogId (w : Nat) : Str → Prop
  | generated {dialogId : Str} (base64 : ∀ c ∈ dialogId, isBase64 c = true) :
    IsDialogId w dialogId
  | received {stack : Action × BitVec w} {text address : Str} {message : DialogMessage w}
    (parsed : unmarshall stack text address = some message) : IsDialogId w message.mDialogId

/-- The messages that are built for sending: by `make_message`, `make_abort`, `make_ack` and
`DiscoverContactAgent::discover`. -/
inductive BuiltForSending : DialogMessage w → Prop
  | request (env : Env w) {action : Action} {dialog : Dialog w} (contact : Contact) (content : Str)
    (allowed : isMessageActionAllowed dialog.mStatus action = true)
    (dialogId : IsDialogId w dialog.mDialogId) :
    BuiltForSending (requestMessage env action dialog contact content)
  | abort (timestamp : BitVec w) {dialogId : Str} (contact : Str) (number : BitVec w)
    (isDialogId : IsDialogId w dialogId) :
    BuiltForSending (makeAbort timestamp dialogId contact number)
  | ack (timestamp : BitVec w) {stack : Action × BitVec w} {text address : Str}
    {mess : DialogMessage w} (parsed : unmarshall stack text address = some mess) :
    BuiltForSending (makeAck timestamp mess)
  | discover (env : Env w) (number : BitVec 32) (name key address : Str)
    (base64 : ∀ c ∈ env.makeUiid, isBase64 c = true) :
    BuiltForSending (DiscoverContactAgent.discoverMessage env number name key address)

theorem IsDialogId.noBreak {dialogId : Str} (isDialogId : IsDialogId w dialogId) :
    newline ∉ dialogId := by
  cases isDialogId with
  | generated base64 => exact fun member => absurd (base64 newline member) (by decide)
  | received parsed => exact newline_notMem_dialogId parsed

variable {message : DialogMessage w}

theorem BuiltForSending.noBreak (built : BuiltForSending message) :
    newline ∉ message.mDialogId := by
  cases built with
  | request _ _ _ _ dialogId => exact dialogId.noBreak
  | abort _ _ _ isDialogId => exact isDialogId.noBreak
  | @ack timestamp stack text address mess parsed =>
    show newline ∉ mess.mDialogId
    exact newline_notMem_dialogId parsed
  | discover env _ _ _ _ base64 => exact (IsDialogId.generated (w := w) base64).noBreak

/-- Only an ACK starts with a signature. -/
theorem BuiltForSending.mSign (built : BuiltForSending message) :
    message.mSign = if message.mAction = .ack then str " " else [] := by
  cases built with
  | @request env action dialog contact content allowed =>
    have other : action ≠ .ack := by
      rintro rfl
      cases h : dialog.mStatus <;> rw [h] at allowed <;> cases allowed
    exact (if_neg other).symm
  | abort => rfl
  | ack => rfl
  | discover => rfl

/-- Signer and verifier work on one text, so that a receiver with the signer's key accepts the
message if the signature scheme is correct for the text that was signed. -/
structure SignatureVerifies (stack : Action × BitVec w) (message : DialogMessage w)
    (sign address : Str) : Prop where
  sameText : VerifiesAsSigned stack message sign address
  accepted : ∀ (p : Platform w) (mRemote : Table RemoteElement) (key : PublicKey),
    getRemoteByAdress p mRemote address = .ok key →
      p.isValid key (marshall message) sign = .ok true →
        ∃ read, unmarshall stack (marshall (message.setSignature sign)) address = some read ∧
          isSignatureOk p mRemote read = .ok true

theorem signatureVerifies_of_sameText (stack : Action × BitVec w)
    (noBreak : newline ∉ message.mDialogId) {sign : Str} (base64 : IsBase64Text sign)
    {address : Str} (sameText : VerifiesAsSigned stack message sign address) :
    SignatureVerifies stack message sign address where
  sameText := sameText
  accepted p mRemote key known valid := by
    obtain ⟨read, parsed, same⟩ := sameText
    refine ⟨read, parsed, ?_⟩
    have whole : unmarshall stack (marshall (message.setSignature sign)) address = if _ then none
        else some _ := unmarshall_printMessage stack noBreak base64.noDelitimer address
    rw [parsed] at whole
    split at whole
    · cases whole
    · obtain rfl := Option.some.inj whole
      simp only [isSignatureOk, same]
      rw [known]
      exact valid

/-- The signature of a message that was built for sending verifies exactly if the message is no
ACK, its identifier and the first line of the signature are not empty, and the content as it is
printed has no line that equals the delimiter and no white space at its end. -/
theorem signature_verifies_iff (built : BuiltForSending message) (stack : Action × BitVec w)
    {sign : Str} (base64 : IsBase64Text sign) (address : Str) :
    SignatureVerifies stack message sign address ↔
      message.mAction ≠ .ack ∧ message.mDialogId ≠ [] ∧ sign.head? ≠ some newline ∧
        bodyDelitimer ∉ getlines (trimmed message.mContent) ∧
        rstrip (trimmed message.mContent) = trimmed message.mContent := by
  have sameRow : message.mSign.head? ≠ some newline := by
    rw [built.mSign]
    split <;> decide
  have unsigned : message.mSign = [] ↔ message.mAction ≠ .ack := by
    rw [built.mSign]
    by_cases ack : message.mAction = .ack <;> simp [ack, str]
  rw [← unsigned, ← verifiesAsSigned_iff stack built.noBreak sameRow base64 address]
  exact ⟨(·.sameText), signatureVerifies_of_sameText stack built.noBreak base64⟩

end

/-- A text with white space at its end, under a signature of two lines. -/
theorem text_signature_verifies : SignatureVerifies (.ack, 0)
    (requestMessage Sample.env .message (Sample.dialog .active 2 7) Sample.peer (str "see you \n"))
    (str "c2ln\nbg==\n") (str "me@mail") :=
  (signature_verifies_iff
    (.request Sample.env Sample.peer _ (by decide) (.generated (by decide +kernel)))
    _ (by decide +kernel) _).mpr (by decide +kernel)

/-- The text that is signed for an ACK has a blank after `SIGNATURE:`, the one that is verified has
none. -/
theorem ack_signature_not_verifies :
    let message := Sample.incoming .message 3 (str "hello")
    BuiltForSending (makeAck 0 message) ∧ IsBase64Text (str "c2lnbg==") ∧
      ¬ SignatureVerifies (.ack, 0) (makeAck 0 message) (str "c2lnbg==") (str "me@mail") := by
  have parsed : unmarshall (.ack, 0) (marshall (Sample.incoming .message 3 (str "hello")))
      Sample.peer.adress = some (Sample.incoming .message 3 (str "hello")) := by
    decide +kernel
  refine ⟨.ack 0 parsed, by decide +kernel, ?_⟩
  intro verifies
  obtain ⟨read, received, same⟩ := verifies.sameText
  have printed : (some read).map marshallExceptSignature =
      some (marshall (makeAck 0 (Sample.incoming .message 3 (str "hello")))) := by
    simp [same]
  rw [← received] at printed
  exact absurd printed (by decide +kernel)

end SecureDialogues
