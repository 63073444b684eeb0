/-!
# Generation numbers

The generations of a snapshot are numbered from 0, the newest, upwards, and a listing may
write a number with a plus sign or leading zeros.  `Generation.ofText` reads such a text
from left to right and stops at the first character at which it is no such number.
-/

namespace StorageArray.Generation

/-- Why a text is not a generation number. -/
inductive ReadError where
  /-- There is no character. -/
  | empty
  /-- A character is not a digit. -/
  | notADigit
  /-- The number has more than 32 bits. -/
  | tooLarge
deriving DecidableEq, Repr

/-- The cause as a text. -/
def ReadError.message : ReadError → String
  | .empty => "cannot parse integer from empty string"
  | .notADigit => "invalid digit found in string"
  | .tooLarge => "number too large to fit in target type"

/-- Continues a number with digits. -/
def readDigits (n : Nat) : List Char → Except ReadError Nat
  | [] => .ok n
  | c :: rest =>
    if c.isDigit then
      let next := n * 10 + (c.toNat - '0'.toNat)
      if next < 4294967296 then readDigits next rest else .error .tooLarge
    else .error .notADigit

/-- The number that a list of characters denotes: digits, perhaps after a plus sign. -/
def read (cs : List Char) : Except ReadError Nat :=
  match cs with
  | [] => .error .empty
  | ['+'] => .error .notADigit
  | '+' :: digits => readDigits 0 digits
  | digits => readDigits 0 digits

/-- The generation that a text denotes. -/
def ofText (s : String) : Except ReadError UInt32 := (read s.toList).map UInt32.ofNat

/-- Numbers in ascending order, each once. -/
def canonical (numbers : List UInt32) : List UInt32 := numbers.mergeSort.eraseReps

end StorageArray.Generation
