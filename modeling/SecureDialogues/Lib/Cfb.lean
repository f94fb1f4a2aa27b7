import SecureDialogues.Lib.Text

/-!
# Cipher feedback

A block function encrypts a text of any length: each block of the text is combined with the image
of the block of cipher text before it, the first one with the image of the initialisation vector.
-/

namespace SecureDialogues.Cfb

open Text

variable (block : Str → Str)

/-- The key stream and the cipher text of the current block, once the stream is used up. -/
def refill (stream register : Str) : Str × Str :=
  if stream.isEmpty then (block register, []) else (stream, register)

/-- The cipher text of the rest of a text, where `stream` is left of the current block of the key
stream and `register` is the cipher text of this block so far. -/
def feed (stream register : Str) : Str → Str
  | [] => []
  | c :: rest =>
    (c ^^^ (refill block stream register).1.headD 0) ::
      feed (refill block stream register).1.tail
        ((refill block stream register).2 ++ [c ^^^ (refill block stream register).1.headD 0]) rest

/-- The text of the rest of a cipher text. -/
def unfeed (stream register : Str) : Str → Str
  | [] => []
  | c :: rest =>
    (c ^^^ (refill block stream register).1.headD 0) ::
      unfeed (refill block stream register).1.tail
        ((refill block stream register).2 ++ [c]) rest

/-- The encryption that starts with an initialisation vector. -/
def encrypt (iv text : Str) : Str := feed block [] iv text

def decrypt (iv cipher : Str) : Str := unfeed block [] iv cipher

variable {block}

@[simp] theorem length_feed (stream register text : Str) :
    (feed block stream register text).length = text.length := by
  induction text generalizing stream register with
  | nil => rfl
  | cons c rest ih => simp [feed, ih]

theorem unfeed_feed (stream register text : Str) :
    unfeed block stream register (feed block stream register text) = text := by
  induction text generalizing stream register with
  | nil => rfl
  | cons c rest ih =>
    rw [feed, unfeed, ih, UInt8.xor_assoc, UInt8.xor_self, UInt8.xor_zero]

theorem take_feed (n : Nat) (stream register text : Str) :
    (feed block stream register text).take n = feed block stream register (text.take n) := by
  induction text generalizing n stream register with
  | nil => simp [feed]
  | cons c rest ih =>
    cases n with
    | zero => simp [feed]
    | succ n => rw [feed, List.take_succ_cons, List.take_succ_cons, feed, ih]

@[simp] theorem length_encrypt (iv text : Str) : (encrypt block iv text).length = text.length :=
  length_feed [] iv text

theorem decrypt_encrypt (iv text : Str) : decrypt block iv (encrypt block iv text) = text :=
  unfeed_feed [] iv text

/-- What a cipher text begins with decrypts to what the text begins with. -/
theorem unfeed_isPrefix (stream register : Str) {part cipher : Str} (begins : part <+: cipher) :
    unfeed block stream register part <+: unfeed block stream register cipher := by
  obtain ⟨rest, rfl⟩ := begins
  induction part generalizing stream register with
  | nil => exact List.nil_prefix
  | cons c part ih =>
    rw [List.cons_append, unfeed, unfeed, List.cons_prefix_cons]
    exact ⟨rfl, ih _ _⟩

/-- With one initialisation vector, texts that begin alike have cipher texts that begin alike. -/
theorem take_encrypt_of_take {n : Nat} {text text' : Str} (iv : Str)
    (same : text.take n = text'.take n) :
    (encrypt block iv text).take n = (encrypt block iv text').take n := by
  rw [encrypt, encrypt, take_feed, take_feed, same]

end SecureDialogues.Cfb
