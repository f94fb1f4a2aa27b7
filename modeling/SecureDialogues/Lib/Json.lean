import SecureDialogues.Lib.Text

/-!
# JSON values

Parsed JSON texts, with the accesses of a program that reads them: a field or an element that is not
there and a value of another kind are errors. Numbers are integers.
-/

namespace SecureDialogues

open Text

inductive Json where
  | null
  | boolean (value : Bool)
  | number (value : Int)
  | string (value : Str)
  | array (elements : List Json)
  | object (members : List (Str × Json))

/-- What an access can fail with. -/
inductive Json.Error where
  | parseError
  | typeError
  | outOfRange
  deriving DecidableEq, Repr

namespace Json

/-- The object has the field. -/
def contains (key : Str) : Json → Bool
  | object members => (members.lookup key).isSome
  | _ => false

/-- A field of an object. -/
def field (key : Str) : Json → Except Error Json
  | object members =>
    match members.lookup key with
    | some value => .ok value
    | none => .error .outOfRange
  | _ => .error .typeError

/-- An element of an array. -/
def item (position : Nat) : Json → Except Error Json
  | array elements =>
    match elements[position]? with
    | some value => .ok value
    | none => .error .outOfRange
  | _ => .error .typeError

/-- How many values the value is made of. -/
def size : Json → Nat
  | null => 0
  | array elements => elements.length
  | object members => members.length
  | _ => 1

/-- The values that an iteration meets; a value that is not made of others is met itself. -/
def elements : Json → List Json
  | null => []
  | array elements => elements
  | object members => members.map Prod.snd
  | value => [value]

/-- The value is this number. -/
def isNumber (n : Int) : Json → Bool
  | number value => value == n
  | _ => false

/-- The value is this text. -/
def isText (text : Str) : Json → Bool
  | string value => value == text
  | _ => false

/-- The conversion to a signed number of 32 bits, which cuts off what does not fit. -/
def toInt : Json → Except Error (BitVec 32)
  | number value => .ok (BitVec.ofInt 32 value)
  | boolean value => .ok (if value then 1 else 0)
  | _ => .error .typeError

/-- The conversion to a signed number of 64 bits. -/
def toLong : Json → Except Error Int
  | number value => .ok (BitVec.ofInt 64 value).toInt
  | boolean value => .ok (if value then 1 else 0)
  | _ => .error .typeError

/-- The conversion to a text. -/
def toText : Json → Except Error Str
  | string value => .ok value
  | _ => .error .typeError

end Json

end SecureDialogues
