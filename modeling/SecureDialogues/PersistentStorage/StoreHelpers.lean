import SecureDialogues.Lib.Memory
import SecureDialogues.Primitives.Dialog

/-!
# Fields in memory

`messages/src/persistent_storage/store_helpers.h` and
`plugins/plugins-libs/plugin-utils/serialization-helpers.h`, which repeat each other. A pointer
that the source reassigns to the result of each helper is the pointer of the writer or reader here.
-/

namespace SecureDialogues

open Text Memory

/-- How the target machine keeps the simple types: `std::string::size_type` in `b` bits, the status
of a dialog, `unsigned long` in `w` bits, the ticks of `std::chrono::system_clock` in `d` bits,
`bool` and `int` in `i` bits. -/
structure Machine (b w d i : Nat) where
  sizeType : Layout (BitVec b)
  status : Layout Status
  sequental : Layout (BitVec w)
  duration : Layout (BitVec d)
  bool : Layout Bool
  int : Layout (BitVec i)
  wide : 2 ^ 32 ≤ 2 ^ b

/-! ## The helpers -/

/-- `restore_simple_type` (`store_helpers.h:6-10`, `serialization-helpers.h:9-13`). -/
def restoreSimpleType {α : Type} (T : Layout α) : Reader α :=
  T.ofBytes <$> copyFrom T.size

/-- `store_simple_type` (`store_helpers.h:12-16`, `serialization-helpers.h:15-19`). -/
def storeSimpleType {α : Type} (T : Layout α) (t : α) : Writer Unit :=
  copyTo (T.toBytes t)

variable {b w d i : Nat} (P : Machine b w d i)

/-- `save_str` (`store_helpers.h:18-24`, `serialization-helpers.h:21-27`). -/
def saveStr (str : Str) : Writer Unit := do
  storeSimpleType P.sizeType (BitVec.ofNat b str.length)
  copyTo str

/-- `restore_str` of the plugins (`serialization-helpers.h:29-36`). What the target holds already
stays behind the inserted characters. -/
def restoreStr (str : Str) : Reader Str := do
  let size ← restoreSimpleType P.sizeType
  let strSrc ← copyFrom size.toNat
  return strSrc ++ str

/-- `sizeof(std::string::size_type) + str.length()`. -/
def sizeofStr (str : Str) : Nat := P.sizeType.size + str.length

/-! ## The bytes of a field -/

/-- A length and the characters. -/
def strBytes (str : Str) : Str := P.sizeType.toBytes (BitVec.ofNat b str.length) ++ str

@[simp] theorem length_strBytes (str : Str) : (strBytes P str).length = sizeofStr P str := by
  simp [strBytes, sizeofStr]

/-- A program that restores strings as `prstorage::restore_str` does into an empty target: it reads
a length and that many characters. -/
def RestoresStr (restore_str : Reader Str) : Prop :=
  ∀ str : Str, str.length < 2 ^ b → Reads restore_str (strBytes P str) str

/-- A program that saves strings as `prstorage::save_str` does: it writes the length and the
characters. -/
def SavesStr (save_str : Str → Writer Unit) : Prop :=
  ∀ str : Str, Writes (save_str str) (strBytes P str)

theorem reads_restoreSimpleType {α : Type} (T : Layout α) (t : α) :
    Reads (restoreSimpleType T) (T.toBytes t) t := by
  have reads := (reads_copyFrom (T.toBytes t)).map T.ofBytes
  rwa [T.length_toBytes, T.ofBytes_toBytes] at reads

theorem writes_storeSimpleType {α : Type} (T : Layout α) (t : α) :
    Writes (storeSimpleType T t) (T.toBytes t) :=
  writes_copyTo _

theorem writes_saveStr : SavesStr P (saveStr P) := by
  intro str
  exact (writes_storeSimpleType _ _).seq (writes_copyTo str)

/-- The plugins' helper restores a string where its target is empty. -/
theorem reads_restoreStr : RestoresStr P (restoreStr P []) := by
  intro str short
  have whole : (BitVec.ofNat b str.length).toNat = str.length := by
    rw [BitVec.toNat_ofNat, Nat.mod_eq_of_lt short]
  have characters : Reads (do let strSrc ← copyFrom str.length; return strSrc ++ []) str str := by
    have reads := (reads_copyFrom str).map (· ++ [])
    rwa [List.append_nil] at reads
  apply (reads_restoreSimpleType P.sizeType _).bind
  rw [whole]
  exact characters

variable {P} in
/-- In a record of less than `2 ^ 32` bytes no string is longer than its `size_type` tells. -/
theorem RestoresStr.reads {restore_str : Reader Str} (restores : RestoresStr P restore_str)
    (str : Str) {total : Nat} (part : sizeofStr P str ≤ total) (small : total < 2 ^ 32) :
    Reads restore_str (strBytes P str) str := by
  apply restores
  calc str.length ≤ sizeofStr P str := Nat.le_add_left _ _
    _ ≤ total := part
    _ < 2 ^ 32 := small
    _ ≤ 2 ^ b := P.wide

/-! ## A machine -/

/-- Words of eight bytes, `int` of four and `bool` of one, with the lowest byte first. -/
def littleEndianMachine : Machine 64 64 64 32 where
  sizeType := .littleEndian 8
  status := (Layout.littleEndian 4).via (fun status => BitVec.ofNat 32 status.toNat)
    (fun v => Status.ofNat v.toNat) (by intro status; cases status <;> rfl)
  sequental := .littleEndian 8
  duration := .littleEndian 8
  bool := (Layout.littleEndian 1).via (fun value => if value then 1#8 else 0#8) (· != 0#8)
    (by intro value; cases value <;> rfl)
  int := .littleEndian 4
  wide := by decide

end SecureDialogues
