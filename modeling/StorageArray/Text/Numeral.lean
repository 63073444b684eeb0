/-!
# Numerals

The numbers that digits denote in a base of at most sixteen.  `numberIn_append` says how a
numeral is read piece by piece.
-/

namespace StorageArray.Text

/-- The value of a digit in a base of at most 16. -/
def digitIn (base : Nat) (c : Char) : Option Nat :=
  let value :=
    if '0' ≤ c ∧ c ≤ '9' then some (c.toNat - '0'.toNat)
    else if 'a' ≤ c ∧ c ≤ 'f' then some (c.toNat - 'a'.toNat + 10)
    else if 'A' ≤ c ∧ c ≤ 'F' then some (c.toNat - 'A'.toNat + 10)
    else none
  value.filter (· < base)

/-- The number that digits denote behind digits with the value `n`. -/
def numberAfter (base n : Nat) (cs : List Char) : Option Nat :=
  cs.foldlM (fun n c => (digitIn base c).map (n * base + ·)) n

/-- The number that digits in a base denote; no digits denote zero. -/
def numberIn (base : Nat) (cs : List Char) : Option Nat := numberAfter base 0 cs

theorem numberIn_append (base : Nat) (cs ds : List Char) :
    numberIn base (cs ++ ds) = (numberIn base cs).bind (numberAfter base · ds) := by
  simp only [numberIn, numberAfter, List.foldlM_append]
  rfl

end StorageArray.Text
