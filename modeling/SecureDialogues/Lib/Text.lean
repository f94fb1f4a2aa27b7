import Mathlib.Tactic
import Mathlib.Data.List.DropRight

/-!
# Byte strings, lines and decimal numbers

`std::string` as a list of bytes, with the parts of the C and C++ library that text formats are
made of: `isspace` and `isdigit` of the C locale, reading line by line with `std::getline`,
reading a string through `c_str()`, printing integers with `operator<<` and reading them back
with `std::stoul`, `std::stol` and `std::stoi`.
-/

namespace SecureDialogues.Text

/-- `std::string`. -/
abbrev Str := List UInt8

/-- The bytes of an ASCII literal. -/
def str (s : String) : Str := s.toList.map fun c => UInt8.ofNat c.toNat

/-- The line feed, at which `std::getline` stops. -/
abbrev newline : UInt8 := 10

/-- `std::isspace` in the C locale. -/
def isspace (c : UInt8) : Bool := c == 32 || (9 ≤ c && c ≤ 13)

/-- `std::isdigit`. -/
def isdigit (c : UInt8) : Bool := 48 ≤ c && c ≤ 57

/-! ## Lines -/

/-- The lines that `while (std::getline(ss, line))` reads from `s`: the text between two line
feeds is a line, and the end of the text ends a line only if the line has a character. -/
def getlines : Str → List Str
  | [] => []
  | c :: s =>
    if c = newline then [] :: getlines s
    else match getlines s with
      | [] => [[c]]
      | line :: rest => (c :: line) :: rest

/-- The text with a line feed after each line. -/
def unlines (lines : List Str) : Str := lines.flatMap (· ++ [newline])

@[simp] theorem getlines_nil : getlines [] = [] := rfl

@[simp] theorem unlines_nil : unlines [] = [] := rfl

@[simp] theorem unlines_cons (line : Str) (lines : List Str) :
    unlines (line :: lines) = line ++ newline :: unlines lines := by
  simp [unlines]

theorem unlines_append (first second : List Str) :
    unlines (first ++ second) = unlines first ++ unlines second := by
  simp [unlines]

/-- A line that is followed by a line feed is read first. -/
theorem getlines_line {line : Str} (noBreak : newline ∉ line) (rest : Str) :
    getlines (line ++ newline :: rest) = line :: getlines rest := by
  induction line with
  | nil => simp [getlines]
  | cons c line ih =>
    simp only [List.mem_cons, not_or] at noBreak
    simp only [List.cons_append, getlines, ih noBreak.2]
    rw [if_neg (Ne.symm noBreak.1)]

/-- The lines of a text that ends every line with a line feed. -/
theorem getlines_unlines {lines : List Str} (noBreak : ∀ line ∈ lines, newline ∉ line)
    (rest : Str) : getlines (unlines lines ++ rest) = lines ++ getlines rest := by
  induction lines with
  | nil => rfl
  | cons line lines ih =>
    simp only [List.mem_cons, forall_eq_or_imp] at noBreak
    rw [unlines_cons, List.append_assoc, List.cons_append, getlines_line noBreak.1, ih noBreak.2,
      List.cons_append]

theorem getlines_eq_nil {s : Str} : getlines s = [] ↔ s = [] := by
  constructor
  · intro none
    cases s with
    | nil => rfl
    | cons c s =>
      simp only [getlines] at none
      split at none
      · simp at none
      · split at none <;> simp at none
  · rintro rfl
    rfl

/-- No line contains a line feed. -/
theorem newline_notMem_of_mem_getlines {s line : Str} (member : line ∈ getlines s) :
    newline ∉ line := by
  induction s generalizing line with
  | nil => simp at member
  | cons c s ih =>
    simp only [getlines] at member
    split at member
    · rcases List.mem_cons.mp member with rfl | member
      · simp
      · exact ih member
    · rename_i different
      split at member
      · simp only [List.mem_singleton] at member
        subst member
        simpa using Ne.symm different
      · rename_i first rest lines
        rcases List.mem_cons.mp member with rfl | member
        · have tail := ih (lines ▸ List.mem_cons_self : first ∈ getlines s)
          simpa [Ne.symm different] using tail
        · exact ih (lines ▸ List.mem_cons_of_mem _ member)

/-- A text that is followed by a line feed is read as the rows between its own line feeds. -/
theorem getlines_append_newline (s rest : Str) :
    getlines (s ++ newline :: rest) = s.splitOn newline ++ getlines rest := by
  induction s with
  | nil => simp [getlines]
  | cons c s ih =>
    rw [List.cons_append, getlines, ih, List.splitOn_cons_eq_if_modifyHead]
    by_cases same : c = newline
    · simp [same]
    · obtain ⟨row, rows, split⟩ := List.exists_cons_of_ne_nil (List.splitOn_ne_nil newline s)
      simp [same, split]

/-- Putting a line feed before every row but the first gives the text back. -/
theorem flatMap_splitOn_tail {s row : Str} {rows : List Str}
    (split : s.splitOn newline = row :: rows) : row ++ rows.flatMap (newline :: ·) = s := by
  have whole : [newline].intercalate (s.splitOn newline) = s := List.intercalate_splitOn newline
  rw [split] at whole
  rw [← whole]
  clear split whole
  induction rows generalizing row with
  | nil => simp [List.intercalate]
  | cons next rows ih =>
    rw [List.flatMap_cons, List.cons_append, ih]
    simp [List.intercalate]

/-- A text that begins without a line feed keeps its beginning in its first row. -/
theorem splitOn_append_head (start : Str) (noBreak : newline ∉ start) {s row : Str}
    {rows : List Str} (split : s.splitOn newline = row :: rows) :
    (start ++ s).splitOn newline = (start ++ row) :: rows := by
  induction start with
  | nil => simpa using split
  | cons c start ih =>
    simp only [List.mem_cons, not_or] at noBreak
    rw [List.cons_append, List.splitOn_cons_eq_if_modifyHead, ih noBreak.2]
    simp [Ne.symm noBreak.1]

theorem unlines_length_filter (lines : List Str) (p : Str → Bool) :
    (unlines (lines.filter p)).length + (unlines (lines.filter fun l => !p l)).length =
      (unlines lines).length := by
  induction lines with
  | nil => rfl
  | cons line lines ih =>
    by_cases keep : p line = true <;>
      simp only [List.filter_cons, keep, unlines_cons, List.length_append, List.length_cons,
        Bool.not_true, Bool.not_false, if_true, Bool.false_eq_true, if_false] <;> omega

theorem le_length_unlines_of_mem {line : Str} {lines : List Str} (member : line ∈ lines) :
    line.length < (unlines lines).length := by
  obtain ⟨before, after, rfl⟩ := List.append_of_mem member
  simp only [unlines_append, unlines_cons, List.length_append, List.length_cons]
  omega

/-- Writing the lines back ends the last one with a line feed as well. -/
theorem unlines_getlines (s : Str) :
    unlines (getlines s) = if s = [] ∨ s.getLast? = some newline then s else s ++ [newline] := by
  induction s with
  | nil => rfl
  | cons c s ih =>
    simp only [getlines]
    split
    · rename_i same
      subst same
      rw [unlines_cons, ih]
      cases s with
      | nil => rfl
      | cons d s =>
        simp only [List.getLast?_cons_cons, reduceCtorEq, false_or, List.cons_append]
        split <;> rfl
    · rename_i different
      cases lines : getlines s with
      | nil =>
        obtain rfl := getlines_eq_nil.mp lines
        simp [different]
      | cons first rest =>
        have nonempty : s ≠ [] := fun empty => by simp [empty] at lines
        obtain ⟨d, s', rfl⟩ := List.exists_cons_of_ne_nil nonempty
        rw [lines, unlines_cons] at ih
        simp only [unlines_cons, List.cons_append, ih, List.getLast?_cons_cons]
        simp
        split <;> rfl

/-! ## Trailing white space and `c_str()` -/

/-- The text without its trailing white space. -/
def rstrip (s : Str) : Str := s.rdropWhile isspace

/-- The text that is read through `c_str()`: up to the first NUL. -/
def cstr (s : Str) : Str := s.takeWhile (· ≠ 0)

theorem isspace_newline : isspace newline = true := by decide

theorem rstrip_append_blank {s t : Str} (blank : ∀ c ∈ t, isspace c = true) :
    rstrip (s ++ t) = rstrip s := by
  induction t using List.reverseRecOn with
  | nil => simp
  | append_singleton t c ih =>
    rw [← List.append_assoc, rstrip, List.rdropWhile_concat_pos _ _ _ (blank c (by simp))]
    exact ih fun d member => blank d (by simp [member])

/-- The trailing white space is what `rstrip` takes away. -/
theorem exists_rstrip_append (s : Str) :
    ∃ blank : Str, s = rstrip s ++ blank ∧ ∀ c ∈ blank, isspace c = true := by
  refine ⟨s.rtakeWhile isspace, (List.rdropWhile_append_rtakeWhile).symm, ?_⟩
  intro c member
  exact List.mem_rtakeWhile_imp member

theorem rstrip_idempotent (s : Str) : rstrip (rstrip s) = rstrip s :=
  List.rdropWhile_idempotent _ _

theorem rstrip_length_le (s : Str) : (rstrip s).length ≤ s.length :=
  (List.rdropWhile_prefix isspace s).length_le

theorem cstr_length_le (s : Str) : (cstr s).length ≤ s.length :=
  (List.takeWhile_prefix _).length_le

theorem cstr_of_notMem {s : Str} (clean : 0 ∉ s) : cstr s = s := by
  rw [cstr, List.takeWhile_eq_self_iff]
  intro c member
  simpa using fun zero : c = 0 => clean (zero ▸ member)

theorem zero_notMem_cstr (s : Str) : 0 ∉ cstr s := by
  intro member
  simpa using List.mem_takeWhile_imp member

/-- Nothing behind a NUL is read. -/
theorem cstr_append_of_mem {s : Str} (terminated : 0 ∈ s) (rest : Str) :
    cstr (s ++ rest) = cstr s := by
  rw [cstr, List.takeWhile_append, if_neg]
  · rfl
  · intro full
    have whole : cstr s = s := (List.takeWhile_prefix _).eq_of_length full
    exact zero_notMem_cstr s (whole.symm ▸ terminated)

theorem cstr_append_zeros {s : Str} (k : Nat) :
    cstr (s ++ List.replicate k 0) = cstr s := by
  by_cases clean : 0 ∈ s
  · exact cstr_append_of_mem clean _
  · rw [cstr, List.takeWhile_append_of_pos]
    · cases k <;> simp [cstr_of_notMem clean, List.replicate_succ]
    · intro c member
      simpa using fun zero : c = 0 => clean (zero ▸ member)

/-- A NUL is no white space, so what is taken away stands behind it. -/
theorem cstr_rstrip_of_mem {s : Str} (terminated : 0 ∈ s) : cstr (rstrip s) = cstr s := by
  obtain ⟨blank, whole, isBlank⟩ := exists_rstrip_append s
  have kept : 0 ∈ rstrip s := by
    rw [whole, List.mem_append] at terminated
    rcases terminated with front | back
    · exact front
    · cases isBlank 0 back
  rw [← cstr_append_of_mem kept blank, ← whole]

theorem rstrip_eq_self_iff {s : Str} :
    rstrip s = s ↔ ∀ c, s.getLast? = some c → isspace c = false := by
  rw [rstrip, List.rdropWhile_eq_self_iff]
  constructor
  · intro last c here
    have nonempty : s ≠ [] := by
      rintro rfl
      cases here
    rw [List.getLast?_eq_some_getLast nonempty] at here
    obtain rfl := Option.some.inj here
    exact Bool.eq_false_iff.mpr (last nonempty)
  · intro last nonempty
    exact Bool.eq_false_iff.mp (last _ (List.getLast?_eq_some_getLast nonempty))

/-! ## Decimal numbers -/

/-- `ss << n` for an unsigned number. -/
def printNat (n : Nat) : Str := (Nat.toDigits 10 n).map fun c => UInt8.ofNat c.toNat

/-- `ss << z` for a signed number. -/
def printInt (z : Int) : Str := if z < 0 then 45 :: printNat z.natAbs else printNat z.natAbs

/-- The value of a row of digits. -/
def digitsValue (s : Str) : Nat := s.foldl (fun n c => 10 * n + (c.toNat - 48)) 0

/-- The number at the start of `s` as `strtol` and `strtoul` read it: white space, a sign and
the longest row of digits; nothing if there is no digit. -/
def readNumber (s : Str) : Option (Bool × Nat) :=
  let s := s.dropWhile isspace
  let signed : Bool × Str := match s with
    | 45 :: rest => (true, rest)
    | 43 :: rest => (false, rest)
    | _ => (false, s)
  let digits := signed.2.takeWhile isdigit
  if digits = [] then none else some (signed.1, digitsValue digits)

/-- The exceptions of `std::stoul` and its siblings. -/
inductive NumberError where
  | invalidArgument
  | outOfRange
  deriving DecidableEq, Repr

/-- `std::stoul` where `unsigned long` has `w` bits; a minus sign negates modulo `2 ^ w`. -/
def stoul (w : Nat) (s : Str) : Except NumberError (BitVec w) :=
  match readNumber s with
  | none => .error .invalidArgument
  | some (negative, n) =>
    if n < 2 ^ w then .ok (if negative then - BitVec.ofNat w n else BitVec.ofNat w n)
    else .error .outOfRange

/-- `std::stol` where `long` has `w` bits, and `std::stoi` where `int` has. -/
def stol (w : Nat) (s : Str) : Except NumberError (BitVec w) :=
  match readNumber s with
  | none => .error .invalidArgument
  | some (negative, n) =>
    let z : Int := if negative then - (n : Int) else n
    if - 2 ^ (w - 1) ≤ z ∧ z < 2 ^ (w - 1) then .ok (BitVec.ofInt w z) else .error .outOfRange

private theorem toNat_of_isDigit {c : Char} (digit : c.isDigit = true) :
    48 ≤ c.toNat ∧ c.toNat ≤ 57 := by
  simp only [Char.isDigit, Bool.and_eq_true, decide_eq_true_eq] at digit
  exact ⟨digit.1, digit.2⟩

private theorem byte_toNat {n : Nat} (small : n < 256) : (UInt8.ofNat n).toNat = n := by
  simpa using Nat.mod_eq_of_lt small

theorem isdigit_of_mem_printNat {n : Nat} {c : UInt8} (member : c ∈ printNat n) :
    isdigit c = true := by
  obtain ⟨d, digit, rfl⟩ := List.mem_map.mp member
  have range := toNat_of_isDigit (Nat.isDigit_of_mem_toDigits (by omega) (by omega) digit)
  have value := byte_toNat (n := d.toNat) (by omega)
  simp only [isdigit, Bool.and_eq_true, decide_eq_true_eq, UInt8.le_iff_toNat_le, value]
  exact range

theorem printNat_ne_nil (n : Nat) : printNat n ≠ [] := by
  simp [printNat]

theorem digitsValue_printNat (n : Nat) : digitsValue (printNat n) = n := by
  have fold : ∀ (digits : List Char) (start : Nat), (∀ c ∈ digits, c.isDigit = true) →
      (digits.map fun c => UInt8.ofNat c.toNat).foldl
          (fun n c => 10 * n + (c.toNat - 48)) start =
        Nat.ofDigitChars 10 digits start := by
    intro digits
    induction digits with
    | nil => intro start _; rfl
    | cons c digits ih =>
      intro start digit
      have range := toNat_of_isDigit (digit c (by simp))
      have value := byte_toNat (n := c.toNat) (by omega)
      rw [List.map_cons, List.foldl_cons, ih _ fun d member => digit d (by simp [member]), value]
      rfl
  have value := fold (Nat.toDigits 10 n) 0 fun c member =>
    Nat.isDigit_of_mem_toDigits (by omega) (by omega) member
  rw [Nat.ofDigitChars_ten_toDigits] at value
  exact value

private theorem not_isspace_of_isdigit {c : UInt8} (digit : isdigit c = true) :
    isspace c = false ∧ c ≠ 45 ∧ c ≠ 43 ∧ c ≠ newline ∧ c ≠ 0 := by
  simp only [isdigit, Bool.and_eq_true, decide_eq_true_eq, UInt8.le_iff_toNat_le] at digit
  refine ⟨?_, ?_, ?_, ?_, ?_⟩
  · simp only [isspace, Bool.or_eq_false_iff, beq_eq_false_iff_ne, Bool.and_eq_false_iff,
      decide_eq_false_iff_not, UInt8.le_iff_toNat_le]
    refine ⟨fun h => ?_, Or.inr fun h => ?_⟩
    · rw [h] at digit
      simp at digit
    · have := digit.1
      simp at h this
      omega
  all_goals
    intro h
    rw [h] at digit
    simp [newline] at digit

theorem readNumber_printNat (n : Nat) : readNumber (printNat n) = some (false, n) := by
  have digits : ∀ c ∈ printNat n, isdigit c = true := fun c => isdigit_of_mem_printNat
  have whole : (printNat n).takeWhile isdigit = printNat n :=
    List.takeWhile_eq_self_iff.mpr digits
  have value := digitsValue_printNat n
  have nonempty := printNat_ne_nil n
  obtain ⟨c, rest, shape⟩ := List.exists_cons_of_ne_nil nonempty
  have first := not_isspace_of_isdigit (digits c (by simp [shape]))
  unfold readNumber
  rw [shape, List.dropWhile_cons_of_neg (by simp [first.1])]
  rw [shape] at whole value
  have unsigned : (match c :: rest with
      | 45 :: rest => (true, rest)
      | 43 :: rest => (false, rest)
      | _ => (false, c :: rest)) = (false, c :: rest) := by
    split
    · simp_all
    · simp_all
    · rfl
  simp only [unsigned, whole, value, reduceCtorEq, if_false]

theorem readNumber_printInt (z : Int) :
    readNumber (printInt z) = some (decide (z < 0), z.natAbs) := by
  unfold printInt
  split
  · rename_i negative
    have digits : ∀ c ∈ printNat z.natAbs, isdigit c = true := fun c => isdigit_of_mem_printNat
    have whole := List.takeWhile_eq_self_iff.mpr digits
    unfold readNumber
    rw [List.dropWhile_cons_of_neg (by decide)]
    simp [whole, printNat_ne_nil, digitsValue_printNat, negative]
  · rename_i nonnegative
    simp [readNumber_printNat, nonnegative]

/-- The first digits of a number are a number. -/
theorem take_printNat (n : Nat) {m : Nat} (taken : 0 < m) :
    ∃ k, (printNat n).take m = printNat k ∧ (0 < n → 0 < k) := by
  induction n using Nat.strongRecOn with
  | ind n ih =>
    by_cases whole : (printNat n).length ≤ m
    · exact ⟨n, List.take_of_length_le whole, id⟩
    · have large : 10 ≤ n := by
        by_contra small
        rw [printNat, Nat.toDigits_of_lt_base (by omega)] at whole
        exact whole taken
      have digits : printNat n =
          printNat (n / 10) ++ [UInt8.ofNat (Nat.digitChar (n % 10)).toNat] := by
        rw [printNat, Nat.toDigits_of_base_le (by omega) large, List.map_append]
        rfl
      rw [digits, List.length_append, List.length_singleton] at whole
      obtain ⟨k, same, positive⟩ := ih (n / 10) (by omega)
      refine ⟨k, ?_, fun _ => positive (by omega)⟩
      rw [digits, List.take_append_of_le_length (by omega), same]

/-- Reading back a printed `unsigned long` of the same width. -/
theorem stoul_printNat {w : Nat} (x : BitVec w) : stoul w (printNat x.toNat) = .ok x := by
  simp [stoul, readNumber_printNat, x.isLt]

/-- Reading back a printed `long` of the same width. -/
theorem stol_printInt {w : Nat} (x : BitVec w) :
    stol w (printInt x.toInt) = .ok x := by
  have low := BitVec.le_toInt x
  have high := BitVec.toInt_lt (x := x)
  have value : (if decide (x.toInt < 0) = true then - (x.toInt.natAbs : Int)
      else (x.toInt.natAbs : Int)) = x.toInt := by
    split
    · rename_i negative
      simp only [decide_eq_true_eq] at negative
      omega
    · rename_i nonnegative
      simp only [decide_eq_true_eq] at nonnegative
      omega
  simp only [stol, readNumber_printInt, value]
  rw [if_pos ⟨low, high⟩, BitVec.ofInt_toInt]

theorem newline_notMem_printNat (n : Nat) : newline ∉ printNat n := fun member =>
  (not_isspace_of_isdigit (isdigit_of_mem_printNat member)).2.2.2.1 rfl

theorem newline_notMem_printInt (z : Int) : newline ∉ printInt z := by
  unfold printInt
  split
  · have different : newline ≠ 45 := by decide
    simpa [different] using newline_notMem_printNat z.natAbs
  · exact newline_notMem_printNat z.natAbs

theorem printInt_ne_nil (z : Int) : printInt z ≠ [] := by
  unfold printInt
  split
  · simp
  · exact printNat_ne_nil z.natAbs

end SecureDialogues.Text
