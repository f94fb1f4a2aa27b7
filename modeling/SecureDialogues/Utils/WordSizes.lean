import SecureDialogues.Utils.MessageMarshallerProps
import SecureDialogues.Primitives.Dialog

/-!
# Builds of different word size

`unsigned long` and `long` have 64 bits on Linux and 32 bits in the Windows build
(`docker/windows.docker`). A number is printed at the sender's width and read with `stoul` and
`stol` at the receiver's, which throw for what does not fit; the catch-all of `unmarshall`
(`messagemarshaller.cpp:68-70`) then drops the message.
-/

namespace SecureDialogues

open Text

/-! ## Numbers at another width -/

namespace Text

/-- `stoul` on a printed number of any size. -/
theorem stoul_printNat_of_le {w n : Nat} (large : 2 ^ w ≤ n) :
    stoul w (printNat n) = .error .outOfRange := by
  simp [stoul, readNumber_printNat, Nat.not_lt.mpr large]

/-- `stol` on a printed number of any size. -/
theorem stol_printInt_of_not {w : Nat} {z : Int}
    (outside : ¬ (- 2 ^ (w - 1) ≤ z ∧ z < 2 ^ (w - 1))) :
    stol w (printInt z) = .error .outOfRange := by
  have value : (if decide (z < 0) = true then - (z.natAbs : Int) else (z.natAbs : Int)) = z := by
    by_cases negative : z < 0
    · rw [if_pos (by simpa using negative)]
      omega
    · rw [if_neg (by simpa using negative)]
      omega
  simp only [stol, readNumber_printInt, value]
  rw [if_neg outside]

end Text

section

variable {w : Nat}

/-- The message with its two numbers at another width. -/
def DialogMessage.resize (message : DialogMessage w) (w' : Nat) : DialogMessage w' where
  mAction := message.mAction
  mContent := message.mContent
  mDialogId := message.mDialogId
  mAdress := message.mAdress
  mSign := message.mSign
  mSequentialNumber := BitVec.ofNat w' message.mSequentialNumber.toNat
  mTimestamp := BitVec.ofInt w' message.mTimestamp.toInt

/-- Both numbers of the message are numbers at width `w'`. -/
def FitsInto (w' : Nat) (message : DialogMessage w) : Prop :=
  message.mSequentialNumber.toNat < 2 ^ w' ∧
    - 2 ^ (w' - 1) ≤ message.mTimestamp.toInt ∧ message.mTimestamp.toInt < 2 ^ (w' - 1)

instance (w' : Nat) (message : DialogMessage w) : Decidable (FitsInto w' message) :=
  inferInstanceAs (Decidable (_ ∧ _ ∧ _))

/-- A message can be read at the width at which it was printed. -/
theorem fitsInto_self (message : DialogMessage w) : FitsInto w message :=
  ⟨message.mSequentialNumber.isLt, BitVec.le_toInt _, BitVec.toInt_lt⟩

theorem FitsInto.mono {message : DialogMessage w} {narrow wide : Nat} (le : narrow ≤ wide)
    (fits : FitsInto narrow message) : FitsInto wide message := by
  have numbers : 2 ^ narrow ≤ 2 ^ wide := Nat.pow_le_pow_right (by decide) le
  have times : (2 : Int) ^ (narrow - 1) ≤ 2 ^ (wide - 1) := by
    exact_mod_cast Nat.pow_le_pow_right (n := 2) (by decide) (Nat.sub_le_sub_right le 1)
  exact ⟨fits.1.trans_le numbers, by have := fits.2.1; omega, fits.2.2.trans_le times⟩

section

variable {message : DialogMessage w} {w' : Nat} (fits : FitsInto w' message)

include fits

theorem toNat_resize : (message.resize w').mSequentialNumber.toNat =
    message.mSequentialNumber.toNat := by
  rw [DialogMessage.resize, BitVec.toNat_ofNat, Nat.mod_eq_of_lt fits.1]

theorem toInt_resize (positive : 0 < w') :
    (message.resize w').mTimestamp.toInt = message.mTimestamp.toInt := by
  obtain ⟨k, rfl⟩ : ∃ k, w' = k + 1 := ⟨w' - 1, by omega⟩
  have range := fits.2
  rw [Nat.add_sub_cancel] at range
  rw [DialogMessage.resize, BitVec.toInt_ofInt]
  apply Int.bmod_eq_of_le_mul_two
  · push_cast
    rw [pow_succ]
    omega
  · push_cast
    rw [pow_succ]
    omega

/-- A message that fits has the same wire text at both widths. -/
theorem marshall_resize (positive : 0 < w') : marshall (message.resize w') = marshall message := by
  simp only [marshall, printMessage, toNat_resize fits, toInt_resize fits positive]
  rfl

end

/-- A header with a number that does not fit is refused: `prepareLine` throws. -/
theorem prepareLines_headerLines_of_not_fits {message : DialogMessage w} {w' : Nat}
    (outside : ¬ FitsInto w' message) (stack : Action × BitVec w') :
    prepareLines (headerLines message) 1 (MessageFields.init stack) = none := by
  rw [prepareLines_headerLines_at]
  by_cases small : message.mSequentialNumber.toNat < 2 ^ w'
  · have late : stol w' (printInt message.mTimestamp.toInt) = .error .outOfRange :=
      stol_printInt_of_not fun range => outside ⟨small, range⟩
    rw [late]
    split
    · rename_i taken
      cases taken
    · rfl
  · rw [stoul_printNat_of_le (Nat.le_of_not_lt small)]

/-- An instance with `w'`-bit numbers reads both numbers of the message as they were sent,
whatever the address and the unassigned memory. -/
def UnderstoodAt (w' : Nat) (message : DialogMessage w) : Prop :=
  ∀ (stack : Action × BitVec w') (address : Str), ∃ read,
    unmarshall stack (marshall message) address = some read ∧
      read.mSequentialNumber.toNat = message.mSequentialNumber.toNat ∧
      read.mTimestamp.toInt = message.mTimestamp.toInt

end

/-! ## What an instance transmits -/

/-- The sequence numbers that an instance gives out. A dialog's counter starts with
`init_sequental` (`dialog.cpp:18-24`), which draws an `unsigned int`, and goes on with
`makeNextSequental` (`dialog.cpp:72-74`). The ABORT for an unknown dialog has the largest number
(`dialogactionhandler.cpp:221-225`). -/
inductive IsSequental {w : Nat} : BitVec w → Prop where
  | init (number : BitVec 32) : IsSequental (number.setWidth w)
  | next {number : BitVec w} : IsSequental number → IsSequental (number + 1)
  | unknownDialog : IsSequental (maxSequential w)

/-- A message as an instance with `w`-bit numbers transmits it: about a dialog, signed, with a
number of its own and any time. -/
structure Transmitted (w : Nat) extends DialogMessage w where
  dialogId : mDialogId ≠ []
  noBreak : newline ∉ mDialogId
  signed : IsBase64Text mSign
  sameRow : mSign.head? ≠ some newline
  sequental : IsSequental mSequentialNumber

/-- A transmitted message is understood at exactly the widths into which its numbers fit. -/
theorem understoodAt_iff_fits {w w' : Nat} (positive : 0 < w') (message : Transmitted w) :
    UnderstoodAt w' message.toDialogMessage ↔ FitsInto w' message.toDialogMessage := by
  constructor
  · intro understood
    by_contra outside
    obtain ⟨read, parsed, -⟩ := understood (.message, 0) []
    obtain ⟨row, rows, split⟩ :=
      List.exists_cons_of_ne_nil (List.splitOn_ne_nil newline message.mSign)
    rw [marshall, unmarshall, getlines_printMessage message.noBreak split, prepareLines_append,
      prepareLines_headerLines_of_not_fits outside, Option.bind_none] at parsed
    cases parsed
  · intro fits stack address
    have accepted : ¬ ((message.toDialogMessage.resize w').mDialogId = [] ∨
        message.mSign = [] ∨ message.mSign.head? = some newline) := by
      rintro (empty | unsigned | broken)
      · exact message.dialogId empty
      · exact message.signed.1 unsigned
      · exact message.sameRow broken
    have noBreak : newline ∉ (message.toDialogMessage.resize w').mDialogId := message.noBreak
    have parsed := unmarshall_printMessage stack noBreak message.signed.noDelitimer address
    rw [if_neg accepted] at parsed
    have text : printMessage (message.toDialogMessage.resize w') message.mSign =
        marshall message.toDialogMessage := marshall_resize fits positive
    rw [text] at parsed
    exact ⟨_, parsed, toNat_resize fits, toInt_resize fits positive⟩

/-- The two builds understand each other's numbers exactly where those of the 64-bit instance fit
into 32 bits: a number below `2 ^ 32`, and a time before the year 2038. The other direction has no
limit. -/
theorem builds_understandEachOther_iff (wide : Transmitted 64) (narrow : Transmitted 32) :
    (UnderstoodAt 32 wide.toDialogMessage ∧ UnderstoodAt 64 narrow.toDialogMessage) ↔
      wide.mSequentialNumber.toNat < 2 ^ 32 ∧
        - 2 ^ 31 ≤ wide.mTimestamp.toInt ∧ wide.mTimestamp.toInt < 2 ^ 31 := by
  rw [understoodAt_iff_fits (by decide), understoodAt_iff_fits (by decide)]
  constructor
  · intro understood
    exact understood.1
  · intro fits
    exact ⟨fits, (fitsInto_self narrow.toDialogMessage).mono (by decide)⟩

/-- The ABORT that a 64-bit instance sends for a dialog it does not know, signed. -/
def Transmitted.strayAbort : Transmitted 64 where
  toDialogMessage :=
    (makeAbort 1569263724 (str "MQ==") (str "peer") (maxSequential 64)).setSignature
      (str "c2lnbg==")
  dialogId := by decide
  noBreak := by decide
  signed := by decide +kernel
  sameRow := by decide
  sequental := .unknownDialog

/-- The 32-bit instance drops it. -/
theorem strayAbort_not_understood : ¬ UnderstoodAt 32 Transmitted.strayAbort.toDialogMessage := by
  rw [understoodAt_iff_fits (by decide)]
  intro fits
  exact absurd fits.1 (by decide)

end SecureDialogues
