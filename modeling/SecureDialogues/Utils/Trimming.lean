import SecureDialogues.Utils.MessageMarshallerProps

/-!
# The trimming loop

`marshall`, `marshallExceptSignature` and `unmarshall` blank the white space at the end of a content
with the same loop (`messagemarshaller.cpp:72-75, 84-87, 105-108`). Here it runs step by step with
every index that it reads or writes, which `blankTrailing` leaves out.
-/

namespace SecureDialogues

open Text

/-- The loop between two iterations. The iterator `it` is the index of the character `*it`, so it is
`-1` at `rend()`. -/
structure TrimLoop where
  it : Int
  content : Str
  /-- The indices that were read or written so far. -/
  accesses : List Int
  deriving DecidableEq, Repr

namespace TrimLoop

/-- `auto it = content.rbegin()`. -/
def start (content : Str) : TrimLoop where
  it := content.length - 1
  content := content
  accesses := []

variable (outside : UInt8) (loop : TrimLoop)

/-- `*it`, where the memory in front of the string holds `outside`. -/
def char : UInt8 := if loop.it = -1 then outside else loop.content.getD loop.it.toNat 0

/-- `it` is dereferenced. -/
def accessed : TrimLoop := { loop with accesses := loop.accesses ++ [loop.it] }

/-- `*it = 0x00`, and `++it`. -/
def blank : TrimLoop where
  it := loop.it - 1
  content := loop.content.set loop.it.toNat 0
  accesses := loop.accesses ++ [loop.it]

/-- `for (...; std::isspace(*it) && it != content.rend(); ++it)` with its body, for at most `fuel`
tests of the condition. The character is read before the end is tested. -/
def run : Nat → TrimLoop → Option TrimLoop
  | 0, _ => none
  | fuel + 1, loop =>
    if isspace (loop.char outside) ∧ loop.it ≠ -1 then run fuel loop.accessed.blank
    else some loop.accessed

end TrimLoop

/-- The loop ends, it reads and writes only indices of the content whatever stands in front of it,
and `c_str()` then shows the content up to its first NUL without trailing white space. -/
def TrimsInside (content : Str) : Prop :=
  ∀ outside, ∃ fuel final, TrimLoop.run outside fuel (.start content) = some final ∧
    (∀ index ∈ final.accesses, 0 ≤ index ∧ index < content.length) ∧
    cstr final.content = rstrip (cstr content)

namespace TrimLoop

/-- With `n` characters left, the loop stops at the last of them that is not white space, and has
accessed only characters from there on; it has the content of `blankTrailing`. -/
theorem run_eq (outside : UInt8) (n : Nat) (content : Str) (inside : n ≤ content.length)
    (accesses : List Int) :
    ∃ further : List Int,
      run outside (n + 1) ⟨n - 1, content, accesses⟩ =
        some ⟨(rstrip (content.take n)).length - 1, blankTrailing n content,
          accesses ++ further⟩ ∧
      (∀ index ∈ further, ((rstrip (content.take n)).length : Int) - 1 ≤ index ∧ index < n) ∧
      ((rstrip (content.take n)).length : Int) - 1 ∈ further := by
  induction n generalizing content accesses with
  | zero =>
    refine ⟨[-1], ?_, ?_, ?_⟩
    · simp [run, accessed, blankTrailing, rstrip]
    · simp [rstrip]
    · simp [rstrip]
  | succ n ih =>
    have taken : content.take (n + 1) = content.take n ++ [content.getD n 0] := by
      rw [List.getD_eq_getElem?_getD, List.getElem?_eq_getElem inside]
      exact (List.take_concat_get' _ _ inside).symm
    have position : ((n + 1 : Nat) : Int) - 1 = n := by omega
    have char : TrimLoop.char outside ⟨n, content, accesses⟩ = content.getD n 0 := rfl
    rw [position, run, char, blankTrailing, taken]
    by_cases white : isspace (content.getD n 0) = true
    · have goesOn : isspace (content.getD n 0) = true ∧ (n : Int) ≠ -1 := ⟨white, by omega⟩
      have same : rstrip (content.take n ++ [content.getD n 0]) = rstrip (content.take n) :=
        List.rdropWhile_concat_pos _ _ _ white
      obtain ⟨further, runs, bounds, stop⟩ := ih (content.set n 0)
        (by rw [List.length_set]; omega) (accesses ++ [(n : Int)] ++ [(n : Int)])
      rw [List.take_set_of_le (Nat.le_refl n)] at runs bounds stop
      rw [if_pos white, if_pos goesOn, same]
      refine ⟨(n : Int) :: (n : Int) :: further, ?_, ?_, ?_⟩
      · have inOrder : accesses ++ [(n : Int)] ++ [(n : Int)] ++ further =
            accesses ++ (n : Int) :: (n : Int) :: further := by simp
        rw [← inOrder]
        exact runs
      · have shorter := rstrip_length_le (content.take n)
        rw [List.length_take] at shorter
        intro index member
        rcases List.mem_cons.mp member with rfl | member
        · omega
        · rcases List.mem_cons.mp member with rfl | member
          · omega
          · have bound := bounds index member
            omega
      · exact List.mem_cons_of_mem _ (List.mem_cons_of_mem _ stop)
    · have stops : ¬ (isspace (content.getD n 0) = true ∧ (n : Int) ≠ -1) := by
        intro both
        exact white both.1
      have same : rstrip (content.take n ++ [content.getD n 0]) =
          content.take n ++ [content.getD n 0] := List.rdropWhile_concat_neg _ _ _ white
      have length : ((content.take n ++ [content.getD n 0]).length : Int) - 1 = n := by
        rw [← taken, List.length_take, Nat.min_eq_left inside]
        exact position
      rw [if_neg white, if_neg stops, same, length]
      refine ⟨[(n : Int)], rfl, ?_, List.mem_singleton_self _⟩
      intro index member
      obtain rfl := List.mem_singleton.mp member
      omega

/-- More fuel does not change where the loop ends. -/
theorem run_unique {outside : UInt8} {m n : Nat} {loop first second : TrimLoop}
    (ends : run outside m loop = some first) (also : run outside n loop = some second) :
    first = second := by
  induction m generalizing n loop with
  | zero => cases ends
  | succ m ih =>
    cases n with
    | zero => cases also
    | succ n =>
      rw [run] at ends also
      split_ifs at ends also with goesOn
      · exact ih ends also
      · exact (Option.some.inj ends).symm.trans (Option.some.inj also)

/-- The whole loop on a content. -/
theorem run_start (outside : UInt8) (content : Str) :
    ∃ final, run outside (content.length + 1) (start content) = some final ∧
      cstr final.content = trimmed content ∧
      (∀ index ∈ final.accesses,
        ((rstrip content).length : Int) - 1 ≤ index ∧ index < content.length) ∧
      ((rstrip content).length : Int) - 1 ∈ final.accesses := by
  obtain ⟨further, runs, bounds, stop⟩ := run_eq outside content.length content le_rfl []
  rw [List.take_length] at runs bounds stop
  exact ⟨_, runs, rfl, bounds, stop⟩

end TrimLoop

/-! ## Which contents are trimmed -/

theorem rstrip_ne_nil_iff {content : Str} :
    rstrip content ≠ [] ↔ ∃ c ∈ content, isspace c = false := by
  rw [rstrip, Ne, List.rdropWhile_eq_nil_iff]
  simp

/-- White space in front of a NUL is not at the end of the content, and stays. -/
theorem trimmed_eq_rstrip_cstr_iff {content : Str} :
    trimmed content = rstrip (cstr content) ↔
      (0 ∈ content → ∀ c, (cstr content).getLast? = some c → isspace c = false) := by
  by_cases terminated : 0 ∈ content
  · rw [trimmed_eq, cstr_rstrip_of_mem terminated, eq_comm, rstrip_eq_self_iff]
    exact ⟨fun last _ => last, fun last => last terminated⟩
  · rw [trimmed_of_clean terminated, cstr_of_notMem terminated]
    exact iff_of_true rfl fun member => absurd member terminated

/-- The loop stays inside the string and trims what `c_str()` shows exactly when the content has a
character that is not white space and no white space in front of its first NUL. -/
theorem trimsInside_iff (content : Str) :
    TrimsInside content ↔
      (∃ c ∈ content, isspace c = false) ∧
        (0 ∈ content → ∀ c, (cstr content).getLast? = some c → isspace c = false) := by
  rw [← rstrip_ne_nil_iff, ← trimmed_eq_rstrip_cstr_iff]
  constructor
  · intro inside
    obtain ⟨fuel, final, ends, accesses, result⟩ := inside 0
    obtain ⟨final', ends', shown, -, stop⟩ := TrimLoop.run_start 0 content
    obtain rfl := TrimLoop.run_unique ends ends'
    refine ⟨?_, shown.symm.trans result⟩
    intro empty
    have first := (accesses _ stop).1
    rw [empty] at first
    cases first
  · rintro ⟨solid, result⟩ outside
    obtain ⟨final, ends, shown, bounds, -⟩ := TrimLoop.run_start outside content
    refine ⟨_, final, ends, ?_, shown.trans result⟩
    have nonempty := List.length_pos_iff.mpr solid
    intro index member
    have bound := bounds index member
    omega

/-- The content of an ACK is empty, and the loop reads the character in front of it. -/
theorem ack_content_not_trimsInside :
    ¬ TrimsInside (makeAck 0
      (.make 0 .message (str "text") (str "MQ==") (str "peer") (1 : BitVec 64) [])).mContent := by
  intro inside
  obtain ⟨fuel, final, ends, accesses, -⟩ := inside 0
  have atOnce : TrimLoop.run 0 1 (.start []) = some ⟨-1, [], [-1]⟩ := rfl
  obtain rfl := TrimLoop.run_unique ends atOnce
  have index := accesses (-1) List.mem_cons_self
  omega

end SecureDialogues
