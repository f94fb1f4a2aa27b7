import SecureDialogues.Lib.Text

/-!
# Base64

The encoder groups its output in lines, the decoder skips whatever is no digit.
-/

namespace SecureDialogues.Base64

open Text

/-! ## Digits -/

/-- The digit of a number below 64. -/
def digit (n : Nat) : UInt8 :=
  if n < 26 then UInt8.ofNat (65 + n)
  else if n < 52 then UInt8.ofNat (71 + n)
  else if n < 62 then UInt8.ofNat (n - 4)
  else if n = 62 then 43
  else 47

/-- The number of a digit. -/
def value (c : UInt8) : Option Nat :=
  if 65 ≤ c ∧ c ≤ 90 then some (c.toNat - 65)
  else if 97 ≤ c ∧ c ≤ 122 then some (c.toNat - 71)
  else if 48 ≤ c ∧ c ≤ 57 then some (c.toNat + 4)
  else if c = 43 then some 62
  else if c = 47 then some 63
  else none

/-- The character in place of a missing digit. -/
abbrev padding : UInt8 := 61

theorem value_digit {n : Nat} (small : n < 64) : value (digit n) = some n := by
  revert n
  decide

theorem value_padding : value padding = none := by decide

theorem value_of_isspace {c : UInt8} (blank : isspace c = true) : value c = none := by
  simp only [isspace, Bool.or_eq_true, beq_iff_eq, Bool.and_eq_true, decide_eq_true_eq] at blank
  simp only [value, UInt8.le_iff_toNat_le, UInt8.ext_iff] at *
  simp at blank ⊢
  split_ifs <;> first | rfl | omega

/-! ## Encoding and decoding -/

/-- Three bytes in four digits. -/
def encode : Str → Str
  | [] => []
  | [a] => [digit (a.toNat / 4), digit (a.toNat % 4 * 16), padding, padding]
  | [a, b] =>
    [digit (a.toNat / 4), digit (a.toNat % 4 * 16 + b.toNat / 16), digit (b.toNat % 16 * 4),
      padding]
  | a :: b :: c :: rest =>
    digit (a.toNat / 4) :: digit (a.toNat % 4 * 16 + b.toNat / 16) ::
      digit (b.toNat % 16 * 4 + c.toNat / 64) :: digit (c.toNat % 64) :: encode rest

/-- The bytes of the digits; bits that do not fill a byte are dropped. -/
def bytes : List Nat → Str
  | v₀ :: v₁ :: v₂ :: v₃ :: rest =>
    UInt8.ofNat (v₀ * 4 + v₁ / 16) :: UInt8.ofNat (v₁ % 16 * 16 + v₂ / 4) ::
      UInt8.ofNat (v₂ % 4 * 64 + v₃) :: bytes rest
  | [v₀, v₁, v₂] => [UInt8.ofNat (v₀ * 4 + v₁ / 16), UInt8.ofNat (v₁ % 16 * 16 + v₂ / 4)]
  | [v₀, v₁] => [UInt8.ofNat (v₀ * 4 + v₁ / 16)]
  | _ => []

def decode (text : Str) : Str := bytes (text.filterMap value)

/-- The text in lines of a width, where the first has some places left. -/
def group (width : Nat) : Nat → Str → Str
  | _, [] => [newline]
  | 0, c :: rest => newline :: c :: group width (width - 1) rest
  | n + 1, c :: rest => c :: group width n rest

/-- The encoding in lines of 72 digits. -/
def armor (text : Str) : Str := group 72 72 (encode text)

theorem byte_of_toNat {n : Nat} {c : UInt8} (same : n = c.toNat) : UInt8.ofNat n = c := by
  rw [same, UInt8.ofNat_toNat]

/-- The first byte from its six and its two bits, and likewise the others. -/
theorem bytes_digits (a b c : UInt8) (rest : List Nat) :
    bytes (a.toNat / 4 :: (a.toNat % 4 * 16 + b.toNat / 16) ::
        (b.toNat % 16 * 4 + c.toNat / 64) :: c.toNat % 64 :: rest) = a :: b :: c :: bytes rest := by
  have first := a.toNat_lt
  have second := b.toNat_lt
  have third := c.toNat_lt
  simp only [bytes]
  rw [byte_of_toNat (c := a) (by omega), byte_of_toNat (c := b) (by omega),
    byte_of_toNat (c := c) (by omega)]

theorem decode_encode (text : Str) : decode (encode text) = text := by
  unfold decode
  induction text using encode.induct with
  | case1 => rfl
  | case2 a =>
    have first := a.toNat_lt
    simp only [encode, List.filterMap_cons, List.filterMap_nil, value_padding,
      value_digit (show a.toNat / 4 < 64 by omega),
      value_digit (show a.toNat % 4 * 16 < 64 by omega), bytes]
    rw [byte_of_toNat (c := a) (by omega)]
  | case3 a b =>
    have first := a.toNat_lt
    have second := b.toNat_lt
    simp only [encode, List.filterMap_cons, List.filterMap_nil, value_padding,
      value_digit (show a.toNat / 4 < 64 by omega),
      value_digit (show a.toNat % 4 * 16 + b.toNat / 16 < 64 by omega),
      value_digit (show b.toNat % 16 * 4 < 64 by omega), bytes]
    rw [byte_of_toNat (c := a) (by omega), byte_of_toNat (c := b) (by omega)]
  | case4 a b c rest ih =>
    have first := a.toNat_lt
    have second := b.toNat_lt
    have third := c.toNat_lt
    simp only [encode, List.filterMap_cons,
      value_digit (show a.toNat / 4 < 64 by omega),
      value_digit (show a.toNat % 4 * 16 + b.toNat / 16 < 64 by omega),
      value_digit (show b.toNat % 16 * 4 + c.toNat / 64 < 64 by omega),
      value_digit (show c.toNat % 64 < 64 by omega)]
    rw [bytes_digits, ih]

/-! ## Lines -/

theorem filterMap_group (width n : Nat) (text : Str) :
    (group width n text).filterMap value = text.filterMap value := by
  have break_ : value newline = none := by decide
  induction text generalizing n with
  | nil => simp [group, break_]
  | cons c rest ih =>
    cases n with
    | zero => simp only [group, List.filterMap_cons, break_, ih]
    | succ n => simp only [group, List.filterMap_cons, ih]

theorem decode_armor (text : Str) : decode (armor text) = text := by
  rw [decode, armor, filterMap_group]
  exact decode_encode text

theorem bytes_isPrefix {part values : List Nat} (begins : part <+: values) :
    bytes part <+: bytes values := by
  obtain ⟨rest, rfl⟩ := begins
  induction part using bytes.induct with
  | case1 v₀ v₁ v₂ v₃ part ih =>
    simp only [List.cons_append, bytes, List.cons_prefix_cons, true_and]
    exact ih
  | case2 v₀ v₁ v₂ => cases rest <;> simp [bytes]
  | case3 v₀ v₁ => rcases rest with _ | ⟨v₂, _ | ⟨v₃, rest⟩⟩ <;> simp [bytes]
  | case4 part notFour notThree notTwo =>
    have none : bytes part = [] := bytes.eq_4 part notFour notThree notTwo
    rw [none]
    exact List.nil_prefix

/-- What a text begins with decodes to what the text decodes to begins with. -/
theorem decode_isPrefix {part text : Str} (begins : part <+: text) : decode part <+: decode text :=
  bytes_isPrefix (begins.filterMap value)

/-- White space makes no difference. -/
theorem decode_of_sameDigits {text text' : Str}
    (same : text.filter (fun c => !isspace c) = text'.filter fun c => !isspace c) :
    decode text = decode text' := by
  have skipped : ∀ text : Str,
      (text.filter fun c => !isspace c).filterMap value = text.filterMap value := by
    intro text
    rw [List.filterMap_filter]
    apply List.filterMap_congr
    intro c _
    by_cases blank : isspace c = true
    · rw [value_of_isspace blank]
      simp
    · rw [if_pos (by simpa using blank)]
  rw [decode, decode, ← skipped text, ← skipped text', same]

theorem mem_encode {text : Str} {c : UInt8} (member : c ∈ encode text) :
    (∃ n < 64, c = digit n) ∨ c = padding := by
  induction text using encode.induct with
  | case1 => cases member
  | case2 a =>
    have first := a.toNat_lt
    simp only [encode, List.mem_cons, List.not_mem_nil, or_false] at member
    rcases member with rfl | rfl | rfl | rfl
    · exact .inl ⟨_, by omega, rfl⟩
    · exact .inl ⟨_, by omega, rfl⟩
    · exact .inr rfl
    · exact .inr rfl
  | case3 a b =>
    have first := a.toNat_lt
    have second := b.toNat_lt
    simp only [encode, List.mem_cons, List.not_mem_nil, or_false] at member
    rcases member with rfl | rfl | rfl | rfl
    · exact .inl ⟨_, by omega, rfl⟩
    · exact .inl ⟨_, by omega, rfl⟩
    · exact .inl ⟨_, by omega, rfl⟩
    · exact .inr rfl
  | case4 a b c rest ih =>
    have first := a.toNat_lt
    have second := b.toNat_lt
    have third := c.toNat_lt
    simp only [encode, List.mem_cons] at member
    rcases member with rfl | rfl | rfl | rfl | later
    · exact .inl ⟨_, by omega, rfl⟩
    · exact .inl ⟨_, by omega, rfl⟩
    · exact .inl ⟨_, by omega, rfl⟩
    · exact .inl ⟨_, by omega, rfl⟩
    · exact ih later

theorem mem_group {width n : Nat} {text : Str} {c : UInt8} (member : c ∈ group width n text) :
    c ∈ text ∨ c = newline := by
  induction text generalizing n with
  | nil => exact .inr (by simpa [group] using member)
  | cons d rest ih =>
    cases n with
    | zero =>
      simp only [group, List.mem_cons] at member
      rcases member with rfl | rfl | later
      · exact .inr rfl
      · exact .inl List.mem_cons_self
      · exact (ih later).imp_left (List.mem_cons_of_mem _)
    | succ n =>
      simp only [group, List.mem_cons] at member
      rcases member with rfl | later
      · exact .inl List.mem_cons_self
      · exact (ih later).imp_left (List.mem_cons_of_mem _)

/-! ## Texts that begin alike -/

/-- Three bytes make four digits. -/
theorem take_encode {n : Nat} {text : Str} (long : 3 * n ≤ text.length) :
    4 * n ≤ (encode text).length ∧ (encode text).take (4 * n) = encode (text.take (3 * n)) := by
  induction n generalizing text with
  | zero => simp [encode]
  | succ n ih =>
    match text, long with
    | a :: b :: c :: rest, long =>
      obtain ⟨longer, same⟩ := @ih rest (by simp at long; omega)
      constructor
      · simp only [encode, List.length_cons]
        omega
      · rw [show 4 * (n + 1) = 4 * n + 1 + 1 + 1 + 1 by omega,
          show 3 * (n + 1) = 3 * n + 1 + 1 + 1 by omega]
        simp only [encode, List.take_succ_cons, same]

/-- The first line is not broken. -/
theorem take_group {m n : Nat} (width : Nat) {text : Str} (inLine : m ≤ n)
    (long : m ≤ text.length) : (group width n text).take m = text.take m := by
  induction text generalizing m n with
  | nil =>
    rw [List.length_nil, Nat.le_zero] at long
    rw [long, List.take_zero, List.take_zero]
  | cons c rest ih =>
    cases m with
    | zero => rfl
    | succ m =>
      obtain ⟨n, rfl⟩ := Nat.exists_eq_succ_of_ne_zero (show n ≠ 0 by omega)
      rw [group, List.take_succ_cons, List.take_succ_cons,
        ih (by omega) (by simpa using long)]

/-- Within the first line, bytes that agree have digits that agree. -/
theorem take_armor_of_take {n : Nat} {text text' : Str} (inLine : n ≤ 18)
    (long : 3 * n ≤ text.length) (long' : 3 * n ≤ text'.length)
    (same : text.take (3 * n) = text'.take (3 * n)) :
    (armor text).take (4 * n) = (armor text').take (4 * n) := by
  obtain ⟨digits, first⟩ := take_encode long
  obtain ⟨digits', second⟩ := take_encode long'
  rw [armor, armor, take_group 72 (by omega) digits, take_group 72 (by omega) digits', first,
    second, same]

end SecureDialogues.Base64
