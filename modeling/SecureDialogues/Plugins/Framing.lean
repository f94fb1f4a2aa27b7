import SecureDialogues.Lib.Base64

/-!
# The framing of the plugins

`utils/src/utils/base64.cpp`, and what the communicators of the three plugins hand to their
transports. An array that the source fills
from its start is the list of its filled slots here; the slots behind are always written before they
are read.
-/

namespace SecureDialogues.Framing

open Text

/-! ## The codec of the source -/

/-- `base64_chars` (`base64.cpp:3-6`). -/
def base64_chars : Str := str "ABCDEFGHIJKLMNOPQRSTUVWXYZabcdefghijklmnopqrstuvwxyz0123456789+/"

/-- `isalnum` in the C locale. -/
def isalnum (c : UInt8) : Bool :=
  (48 ≤ c && c ≤ 57) || (65 ≤ c && c ≤ 90) || (97 ≤ c && c ≤ 122)

/-- `is_base64` (`base64.cpp:8-10`). -/
def is_base64 (c : UInt8) : Bool := isalnum c || c == 43 || c == 47

/-- `base64_chars[c]`; the string ends in a NUL byte. -/
def charAt (c : UInt8) : UInt8 := base64_chars.getD c.toNat 0

/-- `static_cast<unsigned char>(base64_chars.find(c))`, where `npos` keeps its lowest byte. -/
def find (c : UInt8) : UInt8 :=
  match base64_chars.idxOf? c with
  | some position => UInt8.ofNat position
  | none => 255

/-- The four assignments to `char_array_4` in `base64_encode`. -/
def char_array_4 (char_array_3 : Str) : Str :=
  let slot (j : Nat) := char_array_3.getD j 0
  [(slot 0 &&& 0xfc) >>> 2, ((slot 0 &&& 0x03) <<< 4) + ((slot 1 &&& 0xf0) >>> 4),
    ((slot 1 &&& 0x0f) <<< 2) + ((slot 2 &&& 0xc0) >>> 6), slot 2 &&& 0x3f]

/-- The three assignments to `char_array_3` in `base64_decode`; what does not fit an
`unsigned char` is cut off. -/
def char_array_3 (char_array_4 : Str) : Str :=
  let slot (j : Nat) := char_array_4.getD j 0
  [(slot 0 <<< 2) + ((slot 1 &&& 0x30) >>> 4),
    ((slot 1 &&& 0xf) <<< 4) + ((slot 2 &&& 0x3c) >>> 2), ((slot 2 &&& 0x3) <<< 6) + slot 3]

/-- The array of a loop, of which `i` slots are filled, and the result so far. -/
structure Coder where
  filled : Str
  ret : Str

namespace Coder

/-- The body of the loop in `base64_encode` (`base64.cpp:20-34`). -/
def encodeByte (coder : Coder) (byte : UInt8) : Coder :=
  let filled := coder.filled ++ [byte]
  if filled.length = 3 then ⟨[], coder.ret ++ (char_array_4 filled).map charAt⟩
  else ⟨filled, coder.ret⟩

/-- What `base64_encode` does behind its loop (`base64.cpp:36-52`). -/
def finishEncode (coder : Coder) : Str :=
  let i := coder.filled.length
  if i = 0 then coder.ret
  else
    let padded := coder.filled ++ List.replicate (3 - i) 0
    coder.ret ++ ((char_array_4 padded).take (i + 1)).map charAt ++ List.replicate (3 - i) 61

/-- The body of the loop in `base64_decode` (`base64.cpp:67-84`). -/
def decodeByte (coder : Coder) (byte : UInt8) : Coder :=
  let filled := coder.filled ++ [byte]
  if filled.length = 4 then ⟨[], coder.ret ++ char_array_3 (filled.map find)⟩
  else ⟨filled, coder.ret⟩

/-- The loop of `base64_decode` (`base64.cpp:65-84`), which stops at a `=` and at every character
that is no digit. -/
def decodeLoop : Coder → Str → Coder
  | coder, [] => coder
  | coder, c :: rest =>
    if c ≠ 61 ∧ is_base64 c = true then decodeLoop (coder.decodeByte c) rest else coder

/-- What `base64_decode` does behind its loop (`base64.cpp:86-101`). -/
def finishDecode (coder : Coder) : Str :=
  let i := coder.filled.length
  if i = 0 then coder.ret
  else
    let padded := coder.filled ++ List.replicate (4 - i) 0
    coder.ret ++ (char_array_3 (padded.map find)).take (i - 1)

end Coder

/-- `base64_encode` (`base64.cpp:12-55`) of the first `in_len` bytes. -/
def base64_encode (bytes_to_encode : Str) (in_len : BitVec 32) : Str :=
  ((bytes_to_encode.take in_len.toNat).foldl Coder.encodeByte ⟨[], []⟩).finishEncode

/-- `base64_decode` (`base64.cpp:57-104`) of a string whose positions an `int` counts. -/
def base64_decode (encoded_string : Str) : Str :=
  (Coder.decodeLoop ⟨[], []⟩ encoded_string).finishDecode

/-! ## Bits and digits -/

theorem charAt_ofNat {n : Nat} (small : n < 64) : charAt (UInt8.ofNat n) = Base64.digit n := by
  revert n
  decide +kernel

/-- What holds of the numbers below 256 holds of the bytes. -/
theorem forall_byte {p : UInt8 → Prop} (all : ∀ n < 256, p (UInt8.ofNat n)) (c : UInt8) : p c := by
  have byte := all c.toNat c.toNat_lt
  rwa [UInt8.ofNat_toNat] at byte

theorem is_base64_eq (c : UInt8) : is_base64 c = (Base64.value c).isSome := by
  revert c
  apply forall_byte
  decide +kernel

theorem find_of_value {c : UInt8} {n : Nat} (digit : Base64.value c = some n) :
    find c = UInt8.ofNat n ∧ n < 64 := by
  have each : ∀ c : UInt8, ∀ n ∈ Base64.value c, find c = UInt8.ofNat n ∧ n < 64 := by
    apply forall_byte
    decide +kernel
  exact each c n digit

/-- The masks and shifts of the encoder, each on one byte. -/
theorem encoder_bits (c : UInt8) :
    (c &&& 0xfc) >>> 2 = UInt8.ofNat (c.toNat / 4) ∧
    (c &&& 0x03) <<< 4 = UInt8.ofNat (c.toNat % 4 * 16) ∧
    (c &&& 0xf0) >>> 4 = UInt8.ofNat (c.toNat / 16) ∧
    (c &&& 0x0f) <<< 2 = UInt8.ofNat (c.toNat % 16 * 4) ∧
    (c &&& 0xc0) >>> 6 = UInt8.ofNat (c.toNat / 64) ∧
    c &&& 0x3f = UInt8.ofNat (c.toNat % 64) := by
  revert c
  apply forall_byte
  decide +kernel

/-- The masks and shifts of the decoder, each on one number of six bits. -/
theorem decoder_bits {n : Nat} (small : n < 64) :
    UInt8.ofNat n <<< 2 = UInt8.ofNat (n * 4) ∧
    (UInt8.ofNat n &&& 0x30) >>> 4 = UInt8.ofNat (n / 16) ∧
    (UInt8.ofNat n &&& 0xf) <<< 4 = UInt8.ofNat (n % 16 * 16) ∧
    (UInt8.ofNat n &&& 0x3c) >>> 2 = UInt8.ofNat (n / 4) ∧
    (UInt8.ofNat n &&& 0x3) <<< 6 = UInt8.ofNat (n % 4 * 64) := by
  revert n
  decide +kernel

/-- The bit operations of the encoder cut three bytes into numbers of six bits. -/
theorem char_array_4_eq (a b c : UInt8) : char_array_4 [a, b, c] =
    [a.toNat / 4, a.toNat % 4 * 16 + b.toNat / 16, b.toNat % 16 * 4 + c.toNat / 64,
      c.toNat % 64].map UInt8.ofNat := by
  simp only [char_array_4, List.getD_cons_zero, List.getD_cons_succ, encoder_bits, List.map_cons,
    List.map_nil, UInt8.ofNat_add]

theorem digits_eq (a b c : UInt8) : (char_array_4 [a, b, c]).map charAt =
    [Base64.digit (a.toNat / 4), Base64.digit (a.toNat % 4 * 16 + b.toNat / 16),
      Base64.digit (b.toNat % 16 * 4 + c.toNat / 64), Base64.digit (c.toNat % 64)] := by
  have first := a.toNat_lt
  have second := b.toNat_lt
  have third := c.toNat_lt
  simp only [char_array_4_eq, List.map_cons, List.map_nil]
  rw [charAt_ofNat (by omega), charAt_ofNat (by omega), charAt_ofNat (by omega),
    charAt_ofNat (by omega)]

/-! ## The encoder -/

/-- The loop and what follows it encode the bytes that are left. -/
theorem finishEncode_foldl (text ret : Str) :
    (text.foldl Coder.encodeByte ⟨[], ret⟩).finishEncode = ret ++ Base64.encode text := by
  induction text using Base64.encode.induct generalizing ret with
  | case1 => simp [Coder.finishEncode, Base64.encode]
  | case2 a =>
    have tail : (Coder.mk [a] ret).finishEncode =
        ret ++ ((char_array_4 [a, 0, 0]).map charAt).take 2 ++ [61, 61] := rfl
    change (Coder.mk [a] ret).finishEncode = _
    rw [tail, digits_eq]
    simp [Base64.encode]
  | case3 a b =>
    have tail : (Coder.mk [a, b] ret).finishEncode =
        ret ++ ((char_array_4 [a, b, 0]).map charAt).take 3 ++ [61] := rfl
    change (Coder.mk [a, b] ret).finishEncode = _
    rw [tail, digits_eq]
    simp [Base64.encode]
  | case4 a b c rest ih =>
    have group : ([a, b, c].foldl Coder.encodeByte ⟨[], ret⟩) =
        ⟨[], ret ++ (char_array_4 [a, b, c]).map charAt⟩ := rfl
    rw [show a :: b :: c :: rest = [a, b, c] ++ rest from rfl, List.foldl_append, group, ih,
      digits_eq, List.append_assoc]
    rfl

theorem length_encode (text : Str) : (Base64.encode text).length = (text.length + 2) / 3 * 4 := by
  induction text using Base64.encode.induct with
  | case1 => rfl
  | case2 a => simp [Base64.encode]
  | case3 a b => simp [Base64.encode]
  | case4 a b c rest ih =>
    simp only [Base64.encode, List.length_cons, ih]
    omega

/-- The encoder of the source computes the encoding, of as many bytes as it is told. -/
theorem base64_encode_eq (bytes : Str) (in_len : BitVec 32) :
    base64_encode bytes in_len = Base64.encode (bytes.take in_len.toNat) := by
  rw [base64_encode, finishEncode_foldl, List.nil_append]

/-! ## The decoder -/

/-- The loop reads the digits up to the first character that is none. -/
theorem decodeLoop_eq (coder : Coder) (text : Str) :
    coder.decodeLoop text = (text.takeWhile is_base64).foldl Coder.decodeByte coder := by
  induction text generalizing coder with
  | nil => rfl
  | cons c rest ih =>
    by_cases digit : is_base64 c = true
    · have other : c ≠ 61 := by
        rintro rfl
        cases digit
      rw [Coder.decodeLoop, if_pos ⟨other, digit⟩, List.takeWhile_cons_of_pos digit, List.foldl_cons,
        ih]
    · rw [Coder.decodeLoop, if_neg fun both => digit both.2, List.takeWhile_cons_of_neg digit]
      rfl

/-- The bit operations of the decoder join four numbers of six bits; the last two may come from
slots that no digit filled. -/
theorem char_array_3_eq {u v : Nat} (first : u < 64) (second : v < 64) (c d : UInt8) :
    char_array_3 [UInt8.ofNat u, UInt8.ofNat v, c, d] =
      [UInt8.ofNat (u * 4 + v / 16), UInt8.ofNat (v % 16 * 16) + ((c &&& 0x3c) >>> 2),
        ((c &&& 0x3) <<< 6) + d] := by
  simp only [char_array_3, List.getD_cons_zero, List.getD_cons_succ, decoder_bits first,
    decoder_bits second, UInt8.ofNat_add]

theorem number_of_digit {c : UInt8} (digit : is_base64 c = true) :
    ∃ n < 64, Base64.value c = some n ∧ find c = UInt8.ofNat n := by
  rw [is_base64_eq] at digit
  obtain ⟨n, value⟩ := Option.isSome_iff_exists.mp digit
  have ⟨position, small⟩ := find_of_value value
  exact ⟨n, small, value, position⟩

/-- The loop and what follows it decode the digits that are left. -/
theorem finishDecode_foldl : ∀ (digits ret : Str), (∀ c ∈ digits, is_base64 c = true) →
    (digits.foldl Coder.decodeByte ⟨[], ret⟩).finishDecode =
      ret ++ Base64.bytes (digits.filterMap Base64.value)
  | [], ret, _ => by simp [Coder.finishDecode, Base64.bytes]
  | [a], ret, all => by
    obtain ⟨u, _, value, _⟩ := number_of_digit (all a (by simp))
    have tail : (Coder.mk [a] ret).finishDecode = ret ++ [] := rfl
    change (Coder.mk [a] ret).finishDecode = _
    simp [tail, value, Base64.bytes]
  | [a, b], ret, all => by
    obtain ⟨u, smallU, valueA, findA⟩ := number_of_digit (all a (by simp))
    obtain ⟨v, smallV, valueB, findB⟩ := number_of_digit (all b (by simp))
    have tail : (Coder.mk [a, b] ret).finishDecode =
        ret ++ (char_array_3 [find a, find b, find 0, find 0]).take 1 := rfl
    change (Coder.mk [a, b] ret).finishDecode = _
    rw [tail, findA, findB, char_array_3_eq smallU smallV]
    simp [valueA, valueB, Base64.bytes]
  | [a, b, c], ret, all => by
    obtain ⟨u, smallU, valueA, findA⟩ := number_of_digit (all a (by simp))
    obtain ⟨v, smallV, valueB, findB⟩ := number_of_digit (all b (by simp))
    obtain ⟨x, smallX, valueC, findC⟩ := number_of_digit (all c (by simp))
    have tail : (Coder.mk [a, b, c] ret).finishDecode =
        ret ++ (char_array_3 [find a, find b, find c, find 0]).take 2 := rfl
    change (Coder.mk [a, b, c] ret).finishDecode = _
    rw [tail, findA, findB, findC, char_array_3_eq smallU smallV]
    simp [valueA, valueB, valueC, Base64.bytes, decoder_bits smallX]
  | a :: b :: c :: d :: rest, ret, all => by
    obtain ⟨u, smallU, valueA, findA⟩ := number_of_digit (all a (by simp))
    obtain ⟨v, smallV, valueB, findB⟩ := number_of_digit (all b (by simp))
    obtain ⟨x, smallX, valueC, findC⟩ := number_of_digit (all c (by simp))
    obtain ⟨y, smallY, valueD, findD⟩ := number_of_digit (all d (by simp))
    have group : [a, b, c, d].foldl Coder.decodeByte ⟨[], ret⟩ =
        ⟨[], ret ++ char_array_3 [find a, find b, find c, find d]⟩ := rfl
    have later : ∀ c ∈ rest, is_base64 c = true := fun c member => all c (by simp [member])
    rw [show a :: b :: c :: d :: rest = [a, b, c, d] ++ rest from rfl, List.foldl_append, group,
      finishDecode_foldl rest _ later, findA, findB, findC, findD, char_array_3_eq smallU smallV]
    simp [valueA, valueB, valueC, valueD, Base64.bytes, decoder_bits smallX]

/-- The decoder of the source decodes what stands before the first character that is no digit. -/
theorem base64_decode_eq (text : Str) :
    base64_decode text = Base64.decode (text.takeWhile is_base64) := by
  have all : ∀ c ∈ text.takeWhile is_base64, is_base64 c = true := by
    intro c member
    exact List.mem_takeWhile_imp member
  rw [base64_decode, decodeLoop_eq, finishDecode_foldl _ _ all, List.nil_append]
  rfl

/-- Nothing but padding stands behind the digits of an encoding. -/
theorem decode_takeWhile_encode (text : Str) :
    Base64.decode ((Base64.encode text).takeWhile is_base64) = Base64.decode (Base64.encode text) := by
  have digit {n : Nat} (small : n < 64) : is_base64 (Base64.digit n) = true := by
    rw [is_base64_eq, Base64.value_digit small]
    rfl
  have stops : is_base64 Base64.padding = false := by decide
  unfold Base64.decode
  congr 1
  induction text using Base64.encode.induct with
  | case1 => rfl
  | case2 a =>
    have first := a.toNat_lt
    simp [Base64.encode, List.filterMap_cons, stops, Base64.value_padding,
      digit (show a.toNat / 4 < 64 by omega), digit (show a.toNat % 4 * 16 < 64 by omega)]
  | case3 a b =>
    have first := a.toNat_lt
    have second := b.toNat_lt
    simp [Base64.encode, List.filterMap_cons, stops, Base64.value_padding,
      digit (show a.toNat / 4 < 64 by omega),
      digit (show a.toNat % 4 * 16 + b.toNat / 16 < 64 by omega),
      digit (show b.toNat % 16 * 4 < 64 by omega)]
  | case4 a b c rest ih =>
    have first := a.toNat_lt
    have second := b.toNat_lt
    have third := c.toNat_lt
    simp [Base64.encode, List.filterMap_cons,
      digit (show a.toNat / 4 < 64 by omega),
      digit (show a.toNat % 4 * 16 + b.toNat / 16 < 64 by omega),
      digit (show b.toNat % 16 * 4 + c.toNat / 64 < 64 by omega),
      digit (show c.toNat % 64 < 64 by omega), ih]

/-! ## Sending -/

/-- `std::strlen` of a text that a NUL byte ends. -/
def strlen (message : Str) : Nat := (message.takeWhile (· ≠ 0)).length

/-- What the three communicators hand to their transports for a message: the code of
`static_cast<unsigned int>(std::strlen(message))` bytes. -/
def encoded (message : Str) : Str := base64_encode message (BitVec.ofNat 32 (strlen message))

/-- `SmtpMessageCommunication::send` (`smtpmessagecommunication.cpp:14-42`), for the part that it
passes to `SmtpSender::send`; the transport may fail. -/
def SmtpMessageCommunication.send {Result : Type} (transport : Str → Str → Result)
    (addressTo message : Str) : Result := transport addressTo (encoded message)

/-- `GmailMessageCommunicator::send` (`gmailmessagecommunicator.cpp:19-49`), likewise. -/
def GmailMessageCommunicator.send {Result : Type} (transport : Str → Str → Result)
    (addressTo message : Str) : Result := transport addressTo (encoded message)

/-- `VkMessageCommunicator::send` (`vkmessagecommunicator.cpp:17-46`), likewise. -/
def VkMessageCommunicator.send {Result : Type} (transport : Str → Str → Result)
    (addressTo message : Str) : Result := transport addressTo (encoded message)

theorem strlen_of_noNul {message : Str} (noNul : 0 ∉ message) : strlen message = message.length := by
  have whole : message.takeWhile (· ≠ 0) = message := by
    apply List.takeWhile_eq_self_iff.mpr
    intro c member
    have other : c ≠ 0 := by
      rintro rfl
      exact noNul member
    simpa using other
  rw [strlen, whole]

/-- The decoder undoes the encoder, and its counter of characters stays an `int`. -/
theorem base64_decode_base64_encode {bytes : Str} (small : bytes.length < 2 ^ 30) :
    (base64_encode bytes (BitVec.ofNat 32 bytes.length)).length < 2 ^ 31 ∧
    base64_decode (base64_encode bytes (BitVec.ofNat 32 bytes.length)) = bytes := by
  have whole : (BitVec.ofNat 32 bytes.length).toNat = bytes.length := by
    rw [BitVec.toNat_ofNat, Nat.mod_eq_of_lt (by omega)]
  rw [base64_encode_eq, whole, List.take_length]
  constructor
  · rw [length_encode]
    omega
  · rw [base64_decode_eq, decode_takeWhile_encode, Base64.decode_encode]

theorem encoded_eq {message : Str} (noNul : 0 ∉ message) (small : message.length < 2 ^ 30) :
    encoded message = Base64.encode message := by
  rw [encoded, strlen_of_noNul noNul, base64_encode_eq, BitVec.toNat_ofNat,
    Nat.mod_eq_of_lt (by omega), List.take_length]

theorem base64_decode_encoded {text : Str} (noNul : 0 ∉ text) (small : text.length < 2 ^ 30) :
    base64_decode (encoded text) = text := by
  rw [encoded, strlen_of_noNul noNul]
  exact (base64_decode_base64_encode small).2

/-- Over every transport that leaves texts as they are, the decoder gets back what each plugin sent. -/
theorem base64_decode_send {transport : Str → Str → Str × Str}
    (delivers : ∀ addressTo passed, (transport addressTo passed).2 = passed) (addressTo : Str)
    {text : Str} (noNul : 0 ∉ text) (small : text.length < 2 ^ 30) :
    base64_decode (SmtpMessageCommunication.send transport addressTo text).2 = text ∧
    base64_decode (GmailMessageCommunicator.send transport addressTo text).2 = text ∧
    base64_decode (VkMessageCommunicator.send transport addressTo text).2 = text := by
  have decoded : base64_decode (transport addressTo (encoded text)).2 = text := by
    rw [delivers]
    exact base64_decode_encoded noNul small
  exact ⟨decoded, decoded, decoded⟩

end SecureDialogues.Framing
