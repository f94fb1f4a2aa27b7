import SecureDialogues.Lib.Table

/-!
# Files that are written whole

A program that writes whole files, one after the other. Each of them is emptied first and then
filled from its start, so that a program that dies on the way leaves the files before as it has
written them, one with the start of its new text and the others as they were.
-/

namespace SecureDialogues.Text

/-- The texts of the files by their names. -/
abbrev Files := Table Str

namespace Files

/-- A file that is written, with its new text. -/
structure Write where
  file : Str
  text : Str
  deriving DecidableEq, Repr

variable (files : Files)

/-- The file is emptied and filled. -/
def write (write : Write) : Files := files.insert write.file write.text

/-- All files are written. -/
def writeAll (writes : List Write) : Files := writes.foldl Files.write files

/-- Some files are written, and of the next one a number of bytes. -/
def writePart (writes : List Write) (done filled : Nat) : Files :=
  match writes[done]? with
  | some next =>
    (files.writeAll (writes.take done)).write { next with text := next.text.take filled }
  | none => files.writeAll writes

/-- What is read from a file; one that is not there reads as an empty one. -/
def read (file : Str) : Str := files[file]?.getD []

variable {files} {file : Str}

theorem getElem?_write (write : Write) : (files.write write)[file]? =
    if write.file = file then some write.text else files[file]? :=
  getElem?_insert _ _ _ _

@[simp] theorem read_write_self (files : Files) (write : Write) :
    (files.write write).read write.file = write.text := by
  rw [read, getElem?_write, if_pos rfl, Option.getD_some]

theorem read_write_of_ne {write : Write} (other : write.file ≠ file) :
    (files.write write).read file = files.read file := by
  rw [read, getElem?_write, if_neg other, read]

end Files

end SecureDialogues.Text
