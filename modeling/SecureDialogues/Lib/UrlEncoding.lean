import SecureDialogues.Lib.Text

/-!
# URL encoding

Percent-encoded texts and queries of named values (`name=value` pairs joined by `&`): every text
and every list of pairs is read back as it was, whatever bytes it has.
-/

namespace SecureDialogues.UrlEncoding

open Text

/-! ## Texts -/

/-- The bytes that stand for themselves: letters, digits and four marks. -/
def isUnreserved (c : UInt8) : Bool :=
  (48 ≤ c && c ≤ 57) || (65 ≤ c && c ≤ 90) || (97 ≤ c && c ≤ 122) || c == 45 || c == 46 ||
    c == 95 || c == 126

/-- The upper-case hexadecimal digit of a number below 16. -/
def hexDigit (n : Nat) : UInt8 := UInt8.ofNat (if n < 10 then 48 + n else 55 + n)

/-- The number that a hexadecimal digit stands for. -/
def hexValue (c : UInt8) : Option Nat :=
  if 48 ≤ c ∧ c ≤ 57 then some (c.toNat - 48)
  else if 65 ≤ c ∧ c ≤ 70 then some (c.toNat - 55)
  else if 97 ≤ c ∧ c ≤ 102 then some (c.toNat - 87)
  else none

/-- The escape of a byte. -/
def escape (c : UInt8) : Str := [37, hexDigit (c.toNat / 16), hexDigit (c.toNat % 16)]

def encodeByte (c : UInt8) : Str := if isUnreserved c then [c] else escape c

def encode (text : Str) : Str := text.flatMap encodeByte

/-- What a server makes of an encoded text: a `+` is a blank, and a `%` that no two digits follow
stands for itself. -/
def decode : Str → Str
  | [] => []
  | [c] => [if c = 43 then 32 else c]
  | [c, d] => [if c = 43 then 32 else c, if d = 43 then 32 else d]
  | c :: high :: low :: rest =>
    match c == 37, hexValue high, hexValue low with
    | true, some h, some l => UInt8.ofNat (16 * h + l) :: decode rest
    | _, _, _ => (if c = 43 then 32 else c) :: decode (high :: low :: rest)

@[simp] theorem encode_nil : encode [] = [] := rfl

@[simp] theorem encode_cons (c : UInt8) (text : Str) :
    encode (c :: text) = encodeByte c ++ encode text := rfl

theorem hexValue_hexDigit {n : Nat} (small : n < 16) : hexValue (hexDigit n) = some n := by
  revert n
  decide

theorem isUnreserved_hexDigit {n : Nat} (small : n < 16) : isUnreserved (hexDigit n) = true := by
  revert n
  decide

/-- A byte that is neither a `+` nor a `%` is read as itself. -/
theorem decode_cons {c : UInt8} (plus : c ≠ 43) (percent : c ≠ 37) (rest : Str) :
    decode (c :: rest) = c :: decode rest := by
  have other : (c == 37) = false := by simpa using percent
  rcases rest with _ | ⟨high, _ | ⟨low, rest⟩⟩
  · simp [decode, plus]
  · simp [decode, plus]
  · simp [decode, plus, other]

theorem decode_escape (c : UInt8) (rest : Str) : decode (escape c ++ rest) = c :: decode rest := by
  have small := c.toNat_lt
  have value : 16 * (c.toNat / 16) + c.toNat % 16 = c.toNat := Nat.div_add_mod _ _
  simp only [escape, List.cons_append, List.nil_append, decode, beq_self_eq_true,
    hexValue_hexDigit (show c.toNat / 16 < 16 by omega),
    hexValue_hexDigit (show c.toNat % 16 < 16 by omega), value, UInt8.ofNat_toNat]

theorem decode_encodeByte (c : UInt8) (rest : Str) :
    decode (encodeByte c ++ rest) = c :: decode rest := by
  unfold encodeByte
  split
  · rename_i unreserved
    apply decode_cons
    · rintro rfl
      cases unreserved
    · rintro rfl
      cases unreserved
  · exact decode_escape c rest

/-- The round trip of a text. -/
@[simp] theorem decode_encode (text : Str) : decode (encode text) = text := by
  induction text with
  | nil => rfl
  | cons c rest ih => rw [encode_cons, decode_encodeByte, ih]

/-- Only bytes that stand for themselves and `%` occur in an encoded text. -/
theorem mem_encode {text : Str} {c : UInt8} (member : c ∈ encode text) :
    isUnreserved c = true ∨ c = 37 := by
  obtain ⟨byte, -, inside⟩ := List.mem_flatMap.mp member
  have small := byte.toNat_lt
  unfold encodeByte at inside
  split at inside
  · rename_i unreserved
    rw [List.mem_singleton.mp inside]
    exact .inl unreserved
  · simp only [escape, List.mem_cons, List.not_mem_nil, or_false] at inside
    rcases inside with rfl | rfl | rfl
    · exact .inr rfl
    · exact .inl (isUnreserved_hexDigit (by omega))
    · exact .inl (isUnreserved_hexDigit (by omega))

/-- A separator does not occur in an encoded text. -/
theorem notMem_encode {c : UInt8} (reserved : isUnreserved c = false) (other : c ≠ 37)
    (text : Str) : c ∉ encode text := by
  intro member
  rcases mem_encode member with unreserved | percent
  · rw [reserved] at unreserved
    cases unreserved
  · exact other percent

/-! ## Queries -/

/-- One pair of a query. -/
def pair (entry : Str × Str) : Str := encode entry.1 ++ [61] ++ encode entry.2

/-- The pairs, separated by `&`. -/
def query (entries : List (Str × Str)) : Str := [38].intercalate (entries.map pair)

/-- What a server makes of one pair. -/
def parsePair (part : Str) : Str × Str :=
  (decode (part.takeWhile (· ≠ 61)), decode (part.dropWhile (· ≠ 61)).tail)

/-- What a server makes of a query. -/
def parseQuery (text : Str) : List (Str × Str) :=
  ((text.splitOn 38).filter (· ≠ [])).map parsePair

theorem parsePair_pair (entry : Str × Str) : parsePair (pair entry) = entry := by
  have before : ∀ c ∈ encode entry.1, (decide (c ≠ 61)) = true := by
    intro c member
    have other : c ≠ 61 := by
      rintro rfl
      exact notMem_encode (by decide) (by decide) _ member
    simpa using other
  have cut : pair entry = encode entry.1 ++ 61 :: encode entry.2 := by simp [pair]
  rw [parsePair, cut, List.takeWhile_append_of_pos before, List.dropWhile_append_of_pos before]
  simp

theorem notMem_pair (entry : Str × Str) : (38 : UInt8) ∉ pair entry := by
  simp only [pair, List.mem_append, List.mem_singleton, not_or]
  refine ⟨⟨notMem_encode (by decide) (by decide) _, by decide⟩,
    notMem_encode (by decide) (by decide) _⟩

theorem query_cons_cons (first second : Str × Str) (rest : List (Str × Str)) :
    query (first :: second :: rest) = pair first ++ [38] ++ query (second :: rest) := by
  simp [query, List.intercalate]

/-- A query is a text without NUL bytes. -/
theorem zero_notMem_query (entries : List (Str × Str)) : (0 : UInt8) ∉ query entries := by
  have clean : ∀ text, (0 : UInt8) ∉ encode text := notMem_encode (by decide) (by decide)
  have parts : ∀ entry : Str × Str, (0 : UInt8) ∉ pair entry := by
    intro entry
    simp [pair, clean]
  induction entries with
  | nil => simp [query, List.intercalate]
  | cons first rest ih =>
    cases rest with
    | nil => simpa [query, List.intercalate] using parts first
    | cons second rest =>
      rw [query_cons_cons]
      simp only [List.mem_append, List.mem_singleton, not_or]
      exact ⟨⟨parts first, by decide⟩, ih⟩

theorem pair_ne_nil (entry : Str × Str) : pair entry ≠ [] := by simp [pair]

/-- The round trip of a query. -/
@[simp] theorem parseQuery_query (entries : List (Str × Str)) :
    parseQuery (query entries) = entries := by
  cases entries with
  | nil => rfl
  | cons entry rest =>
    have split : (query (entry :: rest)).splitOn 38 = (entry :: rest).map pair := by
      apply List.splitOn_intercalate
      · intro part member
        obtain ⟨entry, -, rfl⟩ := List.mem_map.mp member
        exact notMem_pair entry
      · simp
    have whole : ((entry :: rest).map pair).filter (· ≠ []) = (entry :: rest).map pair := by
      apply List.filter_eq_self.mpr
      intro part member
      obtain ⟨entry, -, rfl⟩ := List.mem_map.mp member
      simpa using pair_ne_nil entry
    rw [parseQuery, split, whole, List.map_map]
    simp [Function.comp_def, parsePair_pair]

/-- A pair is appended to a query behind a separator, unless it is the first one. -/
theorem query_concat (entries : List (Str × Str)) (entry : Str × Str) :
    query (entries ++ [entry]) =
      (if query entries = [] then [] else query entries ++ [38]) ++ pair entry := by
  induction entries with
  | nil => simp [query, List.intercalate]
  | cons first rest ih =>
    cases rest with
    | nil => simp [query, List.intercalate, pair_ne_nil]
    | cons second rest =>
      have later : query (second :: rest) ≠ [] := by
        intro empty
        have parsed := parseQuery_query (second :: rest)
        rw [empty] at parsed
        cases parsed
      rw [List.cons_append, List.cons_append, query_cons_cons, ← List.cons_append, ih,
        if_neg later, query_cons_cons, if_neg (by simp)]
      simp

end SecureDialogues.UrlEncoding
