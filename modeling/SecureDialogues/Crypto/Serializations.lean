import SecureDialogues.Crypto.CryptoSystem

/-!
# The text of a session key

`encryption/src/serialization/serializations.cpp`: the blocks of a key, each behind its size and a
colon, and what `readBlock` makes of such a text when it is cut off. Both are texts of one shape:
a size, behind which there may be a colon and the rest of the stream.
-/

namespace SecureDialogues

open Text

/-- A size with what stands behind its colon, or at the end of the text. -/
def sized (size : Nat) : Option Str → Str
  | none => printNat size
  | some rest => printNat size ++ colon :: rest

/-- The block of that size and the stream behind it. What is missing is filled with zeros. -/
def filled (size : Nat) : Option Str → Str × Option Str
  | none => (List.replicate size 0, none)
  | some rest =>
    if size ≤ rest.length then (rest.take size, some (rest.drop size))
    else (rest ++ List.replicate (size - rest.length) 0, none)

theorem serialize_eq (object : AesKeyStruct) :
    object.serialize = sized object.key.length
      (some (object.key ++ sized object.iv.length (some object.iv))) := by
  simp [AesKeyStruct.serialize, sized]

/-! ## One block -/

theorem colon_notMem_printNat (n : Nat) : colon ∉ printNat n := by
  intro member
  exact absurd (isdigit_of_mem_printNat member) (by decide)

theorem takeWhile_sized (size : Nat) (behind : Option Str) :
    (sized size behind).takeWhile (· ≠ colon) = printNat size := by
  have digits : ∀ c ∈ printNat size, decide (c ≠ colon) = true := by
    intro c member
    rw [decide_eq_true_eq]
    rintro rfl
    exact colon_notMem_printNat size member
  cases behind with
  | none => exact List.takeWhile_eq_self_iff.mpr digits
  | some rest =>
    rw [sized, List.takeWhile_append_of_pos digits, List.takeWhile_cons_of_neg (by simp),
      List.append_nil]

theorem stol_printNat {n : Nat} (small : n < 2 ^ 31) :
    ∃ isize, stol 32 (printNat n) = .ok isize ∧ isize.toInt = n ∧ isize.toNat = n := by
  refine ⟨BitVec.ofInt 32 n, ?_, ?_, ?_⟩
  · simp only [stol, readNumber_printNat, Bool.false_eq_true, if_false]
    rw [if_pos ⟨by omega, by omega⟩]
  · rw [BitVec.toInt_ofInt, Int.bmod_eq_of_le (by omega) (by omega)]
  · rw [BitVec.toNat_ofInt]
    omega

theorem stol_printNat_of_le {n : Nat} (large : 2 ^ 31 ≤ n) :
    stol 32 (printNat n) = .error .outOfRange := by
  simp only [stol, readNumber_printNat, Bool.false_eq_true, if_false]
  rw [if_neg (by omega)]

/-- A block is read if its size is an `int`, whether it is there or not. -/
theorem readBlock_sized {size : Nat} (positive : 0 < size) (behind : Option Str) :
    readBlock (some (sized size behind)) =
      if size < 2 ^ 31 then .ok (filled size behind)
      else .error (stoiError .outOfRange) := by
  have digits := takeWhile_sized size behind
  obtain ⟨c, rest, shape⟩ : ∃ c rest, sized size behind = c :: rest := by
    apply List.exists_cons_of_ne_nil
    intro empty
    rw [empty] at digits
    exact printNat_ne_nil size digits.symm
  have following : (sized size behind).drop (printNat size).length =
      (behind.map (colon :: ·)).getD [] := by
    cases behind with
    | none => exact List.drop_length
    | some rest => exact List.drop_left
  rw [shape] at digits following ⊢
  unfold readBlock
  simp only [digits, following]
  by_cases small : size < 2 ^ 31
  · obtain ⟨isize, read, signed, unsigned⟩ := stol_printNat small
    simp only [read, signed, unsigned]
    rw [if_pos small, if_neg (by omega)]
    cases behind with
    | none => rfl
    | some rest =>
      simp only [filled, Option.map_some, Option.getD_some]
      split_ifs <;> rfl
  · rw [if_neg small, stol_printNat_of_le (by omega)]

theorem filled_append (block rest : Str) :
    filled block.length (some (block ++ rest)) = (block, some rest) := by
  simp [filled]

/-- A block that is no longer than its size leaves nothing. -/
theorem filled_of_length_le {size : Nat} {rest : Str} (short : rest.length ≤ size) :
    (filled size (some rest)).2 = none ∨ (filled size (some rest)).2 = some [] := by
  by_cases whole : size ≤ rest.length
  · right
    simp only [filled, if_pos whole, List.drop_of_length_le short]
  · left
    simp only [filled, if_neg whole]

theorem deserialize_serialize {object : AesKeyStruct} (key : object.key ≠ [])
    (keySmall : object.key.length < 2 ^ 31) (iv : object.iv ≠ [])
    (ivSmall : object.iv.length < 2 ^ 31) :
    AesKeyStruct.deserialize object.serialize = .ok object := by
  have first := readBlock_sized (List.length_pos_iff.mpr key)
    (some (object.key ++ sized object.iv.length (some object.iv)))
  have second := readBlock_sized (List.length_pos_iff.mpr iv) (some (object.iv ++ []))
  rw [if_pos keySmall, filled_append] at first
  rw [if_pos ivSmall, filled_append, List.append_nil] at second
  simp only [AesKeyStruct.deserialize, serialize_eq, first, bind, Except.bind, second]
  rfl

/-! ## A text that is cut off -/

theorem take_sized_of_le {size n : Nat} (positive : 0 < size) (taken : 0 < n)
    (inside : n ≤ (printNat size).length) (rest : Str) :
    ∃ k, 0 < k ∧ (printNat size).take n = printNat k ∧
      (sized size (some rest)).take n = sized k none := by
  obtain ⟨k, digits, stays⟩ := take_printNat size taken
  refine ⟨k, stays positive, digits, ?_⟩
  have text : sized size (some rest) = printNat size ++ colon :: rest := rfl
  rw [text, List.take_append_of_le_length inside, digits]
  rfl

theorem take_sized_of_lt {size n : Nat} (behind : (printNat size).length < n) (rest : Str) :
    (sized size (some rest)).take n =
      sized size (some (rest.take (n - (printNat size).length - 1))) := by
  obtain ⟨m, rfl⟩ := Nat.exists_eq_add_of_lt behind
  rw [sized, List.take_append, List.take_of_length_le (by omega)]
  have one : (printNat size).length + m + 1 - (printNat size).length = m + 1 := by omega
  rw [one, List.take_succ_cons]
  rfl

/-- From a part of a block with its size, `readBlock` takes everything: the stream is at its end
then, unless the digits of the size make no `int`. -/
theorem readBlock_take_sized {block : Str} (nonempty : block ≠ []) {n : Nat} (taken : 0 < n) :
    ∃ field rest, (rest = none ∨ rest = some []) ∧
      readBlock (some ((sized block.length (some block)).take n)) =
        if digitsValue ((printNat block.length).take n) < 2 ^ 31 then .ok (field, rest)
        else .error (stoiError .outOfRange) := by
  have positive := List.length_pos_iff.mpr nonempty
  rcases Nat.lt_or_ge (printNat block.length).length n with behind | inside
  · have short : (block.take (n - (printNat block.length).length - 1)).length ≤ block.length := by
      rw [List.length_take]
      exact Nat.min_le_right _ _
    rw [take_sized_of_lt behind, readBlock_sized positive, List.take_of_length_le behind.le,
      digitsValue_printNat]
    exact ⟨_, _, filled_of_length_le short, rfl⟩
  · obtain ⟨k, kPositive, digits, cut⟩ := take_sized_of_le positive taken inside block
    rw [cut, readBlock_sized kPositive, digits, digitsValue_printNat]
    exact ⟨_, _, .inl rfl, rfl⟩

namespace AesKeyStruct

/-- `deserialize` throws, and so returns no key. -/
def Rejects (text : Str) : Prop := ∃ e, deserialize text = .error e

/-- Nothing is left for the second block. -/
theorem rejects_of_readBlock {text : Str}
    (ends : ∀ field rest, readBlock (some text) = .ok (field, rest) →
      rest = none ∨ rest = some []) : Rejects text := by
  unfold Rejects deserialize
  cases first : readBlock (some text) with
  | error e => exact ⟨e, rfl⟩
  | ok read =>
    obtain ⟨field, rest⟩ := read
    rcases ends field rest first with rfl | rfl
    · exact ⟨_, rfl⟩
    · exact ⟨_, rfl⟩

/-- The text of the first block. -/
def headLength (object : AesKeyStruct) : Nat :=
  (printNat object.key.length).length + 1 + object.key.length

variable {object : AesKeyStruct}

theorem rejects_take_of_le (key : object.key ≠ []) {n : Nat} (inside : n ≤ object.headLength) :
    Rejects (object.serialize.take n) := by
  have whole : object.serialize = sized object.key.length (some object.key) ++
      sized object.iv.length (some object.iv) := by simp [serialize_eq, sized]
  have length : (sized object.key.length (some object.key)).length = object.headLength := by
    simp [sized, headLength, Nat.add_assoc, Nat.add_comm]
  apply rejects_of_readBlock
  intro field rest first
  rw [whole, List.take_append_of_le_length (by omega)] at first
  rcases Nat.eq_zero_or_pos n with rfl | taken
  · cases first
  · obtain ⟨field', rest', ended, read⟩ := readBlock_take_sized key taken
    rw [read] at first
    split_ifs at first
    cases first
    exact ended

/-- Behind the first block, the prefix has a part of the second one. -/
theorem take_serialize {n : Nat} (behind : object.headLength < n) :
    object.serialize.take n = sized object.key.length (some (object.key ++
      (sized object.iv.length (some object.iv)).take (n - object.headLength))) := by
  obtain ⟨m, rfl⟩ := Nat.exists_eq_add_of_lt behind
  have left : object.headLength + m + 1 - (printNat object.key.length).length - 1 =
      object.key.length + (m + 1) := by
    unfold headLength
    omega
  have inBlock : object.headLength + m + 1 - object.headLength = m + 1 := by omega
  rw [serialize_eq, take_sized_of_lt (by unfold headLength; omega), left, inBlock,
    List.take_length_add_append]

/-- A prefix of the text of a key is rejected exactly if it ends before the first digit of the size
of the second block, or if it has a size that is no `int`. -/
theorem rejects_take_iff (object : AesKeyStruct) (key : object.key ≠ []) (iv : object.iv ≠ [])
    (n : Nat) :
    Rejects (object.serialize.take n) ↔
      n ≤ object.headLength ∨ 2 ^ 31 ≤ object.key.length ∨
        2 ^ 31 ≤ digitsValue ((printNat object.iv.length).take (n - object.headLength)) := by
  rcases Nat.lt_or_ge object.headLength n with behind | inside
  · have first := readBlock_sized (List.length_pos_iff.mpr key) (some (object.key ++
      (sized object.iv.length (some object.iv)).take (n - object.headLength)))
    obtain ⟨field, rest, -, second⟩ := readBlock_take_sized iv (Nat.sub_pos_of_lt behind)
    rw [filled_append] at first
    rw [Rejects, deserialize, take_serialize behind, first]
    by_cases keySmall : object.key.length < 2 ^ 31
    · rw [if_pos keySmall]
      simp only [bind, Except.bind, second]
      by_cases ivSmall :
          digitsValue ((printNat object.iv.length).take (n - object.headLength)) < 2 ^ 31
      · rw [if_pos ivSmall]
        refine iff_of_false ?_ (by omega)
        rintro ⟨e, thrown⟩
        cases thrown
      · rw [if_neg ivSmall]
        exact iff_of_true ⟨_, rfl⟩ (.inr (.inr (Nat.not_lt.mp ivSmall)))
    · rw [if_neg keySmall]
      exact iff_of_true ⟨_, rfl⟩ (.inr (.inl (Nat.not_lt.mp keySmall)))
  · exact iff_of_true (rejects_take_of_le key inside) (.inl inside)

/-- A text that is cut off within the second block gives a key whose missing bytes are zeros. -/
theorem deserialize_take (key : object.key ≠ []) (keySmall : object.key.length < 2 ^ 31)
    (ivSmall : object.iv.length < 2 ^ 31) {r : Nat} (short : r < object.iv.length) :
    deserialize (object.serialize.take
        (object.headLength + (printNat object.iv.length).length + 1 + r)) =
      .ok ⟨object.key, object.iv.take r ++ List.replicate (object.iv.length - r) 0⟩ := by
  have left : object.headLength + (printNat object.iv.length).length + 1 + r -
      object.headLength = (printNat object.iv.length).length + 1 + r := by omega
  have inBlock : (printNat object.iv.length).length + 1 + r -
      (printNat object.iv.length).length - 1 = r := by omega
  have taken : (object.iv.take r).length = r := List.length_take_of_le short.le
  have first := readBlock_sized (List.length_pos_iff.mpr key)
    (some (object.key ++ sized object.iv.length (some (object.iv.take r))))
  have second := readBlock_sized (Nat.zero_lt_of_lt short) (some (object.iv.take r))
  rw [if_pos keySmall, filled_append] at first
  rw [if_pos ivSmall, filled, taken, if_neg (Nat.not_le.mpr short)] at second
  rw [take_serialize (by omega), left, take_sized_of_lt (by omega), inBlock, deserialize, first]
  simp only [bind, Except.bind, second]
  rfl

namespace Sample

/-- A key and an initial vector of 128 bits. -/
def sessionKey : AesKeyStruct where
  key := List.replicate 16 1
  iv := List.replicate 16 2

end Sample

/-- The key without its initial vector is rejected. -/
theorem sessionKey_head_rejects : Rejects (Sample.sessionKey.serialize.take 19) :=
  (rejects_take_iff Sample.sessionKey (by decide) (by decide) 19).mpr (.inl (by decide))

/-- Without the last byte of its initial vector it is not. -/
theorem sessionKey_short_not_rejects :
    37 < Sample.sessionKey.serialize.length ∧ ¬ Rejects (Sample.sessionKey.serialize.take 37) := by
  refine ⟨by decide, ?_⟩
  rintro ⟨e, thrown⟩
  have read := @deserialize_take Sample.sessionKey (by decide) (by decide) (by decide) 15
    (by decide)
  cases read.symm.trans thrown

end AesKeyStruct

end SecureDialogues
