import SecureDialogues.Lib.Text

/-!
# Records in memory

A memory of bytes, the object representations that `memcpy` copies, and the programs that write or
read one field after another behind a moving pointer. A writer is described by the bytes it leaves,
a reader by the bytes it expects and the value it makes of them, so that a record survives when
both are described by the same bytes.
-/

namespace SecureDialogues.Memory

open Text

abbrev Mem := Nat → UInt8

/-! ## Bytes at an address -/

/-- The memory after the bytes have been copied to an address. -/
def write (mem : Mem) (dest : Nat) (bytes : Str) : Mem :=
  fun address => if dest ≤ address then bytes[address - dest]?.getD (mem address) else mem address

/-- The bytes from an address on. -/
def read (mem : Mem) : Nat → Nat → Str
  | _, 0 => []
  | src, n + 1 => mem src :: read mem (src + 1) n

/-- The bytes stand at the address. -/
def Holds (mem : Mem) (src : Nat) (bytes : Str) : Prop :=
  read mem src bytes.length = bytes

@[simp] theorem length_read (mem : Mem) (src n : Nat) : (read mem src n).length = n := by
  induction n generalizing src with
  | zero => rfl
  | succ n ih => simp [read, ih]

theorem read_add (mem : Mem) (src m n : Nat) :
    read mem src (m + n) = read mem src m ++ read mem (src + m) n := by
  induction m generalizing src with
  | zero => simp [read]
  | succ m ih =>
    rw [Nat.succ_add, read, ih, read, List.cons_append]
    simp only [Nat.add_assoc, Nat.add_comm 1]

theorem holds_append {mem : Mem} {src : Nat} {front back : Str} :
    Holds mem src (front ++ back) ↔
      Holds mem src front ∧ Holds mem (src + front.length) back := by
  unfold Holds
  rw [List.length_append, read_add]
  constructor
  · intro same
    exact List.append_inj same (by simp)
  · intro ⟨first, second⟩
    rw [first, second]

theorem write_nil (mem : Mem) (dest : Nat) : write mem dest [] = mem := by
  funext address
  simp [write]

theorem write_append (mem : Mem) (dest : Nat) (front back : Str) :
    write (write mem dest front) (dest + front.length) back = write mem dest (front ++ back) := by
  funext address
  simp only [write]
  by_cases inside : dest ≤ address
  · by_cases second : dest + front.length ≤ address
    · have later : front.length ≤ address - dest := by omega
      rw [if_pos second, if_pos inside, if_pos inside, List.getElem?_append_right later,
        List.getElem?_eq_none later, Nat.sub_add_eq]
      rfl
    · have earlier : address - dest < front.length := by omega
      rw [if_neg second, if_pos inside, if_pos inside, List.getElem?_append_left earlier]
  · rw [if_neg (by omega), if_neg inside, if_neg inside]

/-! ## Object representations -/

/-- The bytes of the objects of a type, always as many, from which each object comes back. -/
structure Layout (α : Type) where
  size : Nat
  toBytes : α → Str
  ofBytes : Str → α
  length_toBytes (a : α) : (toBytes a).length = size
  ofBytes_toBytes (a : α) : ofBytes (toBytes a) = a

attribute [simp] Layout.length_toBytes Layout.ofBytes_toBytes

namespace Layout

/-- The lowest bytes of a number, the lowest first. -/
def lowBytes : Nat → Nat → Str
  | 0, _ => []
  | k + 1, n => UInt8.ofNat (n % 256) :: lowBytes k (n / 256)

/-- The number of which these are the lowest bytes. -/
def number : Str → Nat
  | [] => 0
  | byte :: bytes => byte.toNat + 256 * number bytes

theorem length_lowBytes (k n : Nat) : (lowBytes k n).length = k := by
  induction k generalizing n with
  | zero => rfl
  | succ k ih => simp [lowBytes, ih]

theorem number_lowBytes {k n : Nat} (small : n < 256 ^ k) : number (lowBytes k n) = n := by
  induction k generalizing n with
  | zero =>
    have zero : n = 0 := by simpa using small
    rw [zero]
    rfl
  | succ k ih =>
    have rest : n / 256 < 256 ^ k := by
      rw [Nat.pow_succ] at small
      exact Nat.div_lt_of_lt_mul (by omega)
    have byte : (UInt8.ofNat (n % 256)).toNat = n % 256 := by
      rw [UInt8.toNat_ofNat']
      omega
    rw [lowBytes, number, ih rest, byte]
    omega

/-- A word of `k` bytes, the lowest byte first. -/
def littleEndian (k : Nat) : Layout (BitVec (8 * k)) where
  size := k
  toBytes v := lowBytes k v.toNat
  ofBytes bytes := BitVec.ofNat (8 * k) (number bytes)
  length_toBytes v := length_lowBytes k v.toNat
  ofBytes_toBytes v := by
    have small : v.toNat < 256 ^ k := by
      have bound := v.isLt
      rwa [Nat.pow_mul] at bound
    rw [number_lowBytes small, BitVec.ofNat_toNat, BitVec.setWidth_eq]

/-- A type whose objects are kept as objects of another. -/
def via {α β : Type} (layout : Layout β) (f : α → β) (g : β → α) (inverse : ∀ a, g (f a) = a) :
    Layout α where
  size := layout.size
  toBytes a := layout.toBytes (f a)
  ofBytes bytes := g (layout.ofBytes bytes)
  length_toBytes a := layout.length_toBytes (f a)
  ofBytes_toBytes a := by rw [layout.ofBytes_toBytes, inverse]

end Layout

/-! ## Writers -/

/-- A program that writes and moves its pointer. -/
abbrev Writer := StateM (Mem × Nat)

/-- The program writes these bytes at the pointer, and nothing else, and moves the pointer behind
them. -/
def Writes {α : Type} (m : Writer α) (bytes : Str) : Prop :=
  ∀ mem dest, (m (mem, dest)).2 = (write mem dest bytes, dest + bytes.length)

/-- `memcpy` to the pointer, which then moves on. -/
def copyTo (bytes : Str) : Writer Unit :=
  modify fun (mem, dest) => (write mem dest bytes, dest + bytes.length)

theorem writes_copyTo (bytes : Str) : Writes (copyTo bytes) bytes := fun _ _ => rfl

theorem Writes.pure {α : Type} (a : α) : Writes (pure a : Writer α) [] := by
  intro mem dest
  rw [write_nil]
  rfl

theorem Writes.bind {α β : Type} {m : Writer α} {n : α → Writer β} {front back : Str}
    (first : Writes m front) (second : ∀ a, Writes (n a) back) :
    Writes (m >>= n) (front ++ back) := by
  intro mem dest
  calc ((m >>= n) (mem, dest)).2
      = (n (m (mem, dest)).1 (write mem dest front, dest + front.length)).2 := by
        rw [← first mem dest]
        rfl
    _ = (write mem dest (front ++ back), dest + (front ++ back).length) := by
        rw [second, write_append, List.length_append, Nat.add_assoc]

theorem Writes.seq {m : Writer Unit} {α : Type} {n : Unit → Writer α} {front back : Str}
    (first : Writes m front) (second : Writes (n ()) back) : Writes (m >>= n) (front ++ back) :=
  first.bind fun _ => second

/-- The memory that a writer leaves when it starts at an address. -/
def Writer.run {α : Type} (m : Writer α) (mem : Mem) (dest : Nat) : Mem := (m (mem, dest)).2.1

theorem Writes.run {α : Type} {m : Writer α} {bytes : Str} (writes : Writes m bytes) (mem : Mem)
    (dest : Nat) : m.run mem dest = write mem dest bytes := by
  rw [Writer.run, writes]

/-! ## Readers -/

/-- A program that reads and moves its pointer. -/
abbrev Reader := StateT Nat (ReaderM Mem)

/-- Where these bytes stand at the pointer, the program returns the value and moves the pointer
behind them, whatever follows. -/
def Reads {α : Type} (m : Reader α) (bytes : Str) (a : α) : Prop :=
  ∀ mem src, Holds mem src bytes → m src mem = (a, src + bytes.length)

/-- `memcpy` of some bytes from the pointer, which then moves on. -/
def copyFrom (n : Nat) : Reader Str := fun src mem => (read mem src n, src + n)

theorem reads_copyFrom (bytes : Str) : Reads (copyFrom bytes.length) bytes bytes := by
  intro mem src holds
  exact congrArg (·, src + bytes.length) holds

theorem Reads.pure {α : Type} (a : α) : Reads (pure a) [] a := fun _ _ _ => rfl

theorem Reads.bind {α β : Type} {m : Reader α} {n : α → Reader β} {front back : Str} {a : α}
    {b : β} (first : Reads m front a) (second : Reads (n a) back b) :
    Reads (m >>= n) (front ++ back) b := by
  intro mem src holds
  have ⟨here, there⟩ := holds_append.mp holds
  calc (m >>= n) src mem = n a (src + front.length) mem := by
        change n (m src mem).1 (m src mem).2 mem = _
        rw [first mem src here]
    _ = (b, src + (front ++ back).length) := by
        rw [second mem _ there, List.length_append, Nat.add_assoc]

theorem Reads.map {α β : Type} {m : Reader α} {bytes : Str} {a : α} (f : α → β)
    (reads : Reads m bytes a) : Reads (f <$> m) bytes (f a) := by
  intro mem src holds
  change (f (m src mem).1, (m src mem).2) = _
  rw [reads mem src holds]

/-- The value that a reader makes of the memory at an address. -/
def Reader.run {α : Type} (m : Reader α) (mem : Mem) (src : Nat) : α := (m src mem).1

theorem Reads.run {α : Type} {m : Reader α} {bytes : Str} {a : α} (reads : Reads m bytes a)
    {mem : Mem} {src : Nat} (holds : Holds mem src bytes) : m.run mem src = a := by
  rw [Reader.run, reads mem src holds]

/-! ## Records -/

/-- A record survives a store that asks for some bytes, runs a writer and later a reader that is
given the previous value of its target: exactly as many bytes as were asked for are written, and the
reader makes the record of them, wherever they stand and whatever follows. -/
def Survives {α : Type} (size : BitVec 32) (store : Writer Unit) (restore : α → Reader α) (x : α) :
    Prop :=
  ∃ bytes : Str, bytes.length = size.toNat ∧
    (∀ mem dest, store.run mem dest = write mem dest bytes) ∧
    ∀ old mem src, Holds mem src bytes → (restore old).run mem src = x

variable {α : Type} {store : Writer Unit} {restore : α → Reader α} {x : α} {bytes : Str}

/-- A record survives when its writer and its reader have the same bytes in view, unless it is too
large for the type of the size. -/
theorem survives_of_reads {total : Nat} (length : bytes.length = total) (small : total < 2 ^ 32)
    (writes : Writes store bytes) (reads : ∀ old, Reads (restore old) bytes x) :
    Survives (BitVec.ofNat 32 total) store restore x := by
  refine ⟨bytes, ?_, writes.run, ?_⟩
  · rw [BitVec.toNat_ofNat, Nat.mod_eq_of_lt small, length]
  · intro old mem src holds
    exact (reads old).run holds

/-- A copy reaches as far as its bytes. -/
theorem length_le_of_write {first second : Str}
    (same : ∀ mem dest, write mem dest first = write mem dest second) :
    second.length ≤ first.length := by
  by_contra longer
  have inside : first.length < second.length := by omega
  -- a memory that differs from the first byte behind the shorter text
  have byte := congrFun (same (fun _ => second[first.length] + 1) 0) first.length
  simp [write, List.getElem?_eq_getElem inside] at byte

/-- A record that is too large for the type of the size does not survive. -/
theorem not_survives_of_large {size : BitVec 32} (writes : Writes store bytes)
    (large : 2 ^ 32 ≤ bytes.length) : ¬ Survives size store restore x := by
  intro ⟨asked, length, same, _⟩
  have reach : bytes.length ≤ asked.length := by
    apply length_le_of_write
    intro mem dest
    rw [← same, writes.run]
  have bound := size.isLt
  omega

end SecureDialogues.Memory
