/-!
# Finite numbers of the binary64 format

A finite number is a sign and a magnitude.  The magnitude counts the numbers of the format
from zero upwards: below `2 ^ 52` it is the multiple of `2 ^ -1074` that the number is,
and from there on every block of `2 ^ 52` numbers has spacing twice that of the block
before.  So the order of the numbers is the order of their magnitudes, and every value of
the type is a number of the format.

Rounding goes to the nearest number, of two equally near ones to the even magnitude.
-/

namespace StorageArray

/-- How many numbers in a row have the same spacing: `2 ^ 52`. -/
def Binary64.blockSize : Nat := 4503599627370496

/-- A finite number of the binary64 format. -/
structure Binary64 where
  /-- The sign; zero has both. -/
  negative : Bool
  /-- The position of the number above zero. -/
  magnitude : Nat
  /-- The position is below that of infinity. -/
  finite : magnitude < 2047 * Binary64.blockSize
deriving DecidableEq

namespace Binary64

/-- The integer `m` of a magnitude read as `m * 2 ^ q`. -/
def significand (magnitude : Nat) : Nat :=
  if magnitude < blockSize then magnitude else blockSize + magnitude % blockSize

/-- The exponent `q` of a magnitude read as `m * 2 ^ q`. -/
def exponent (magnitude : Nat) : Int :=
  if magnitude < blockSize then -1074 else (magnitude / blockSize : Nat) - 1075

/-- Positive zero. -/
def zero : Binary64 := ⟨false, 0, by decide⟩

/-- The largest number of the format. -/
def largest : Binary64 := ⟨false, 2047 * blockSize - 1, by decide⟩

instance : Inhabited Binary64 := ⟨zero⟩

/-- Same number with the given sign. -/
def withSign (x : Binary64) (negative : Bool) : Binary64 := { x with negative }

/-- The integer that orders the numbers; zero with either sign has the key 0. -/
def key (x : Binary64) : Int := if x.negative then -(x.magnitude : Int) else x.magnitude

instance : LE Binary64 := ⟨fun x y => x.key ≤ y.key⟩

instance (x y : Binary64) : Decidable (x ≤ y) := inferInstanceAs (Decidable (x.key ≤ y.key))

/-- The two numbers have the same value; zero has one value with two signs. -/
def SameValue (x y : Binary64) : Prop := x.key = y.key

instance (x y : Binary64) : Decidable (SameValue x y) :=
  inferInstanceAs (Decidable (x.key = y.key))

/-! ## Rounding -/

/-- The integer nearest to `num / den`, of two the even one. -/
def roundHalfEven (num den : Nat) : Nat :=
  let q := num / den
  let r := num % den
  if 2 * r < den then q else if den < 2 * r then q + 1 else q + q % 2

/-- The magnitude nearest to `num / den`, as if there were no largest one. -/
def roundRatio (num den : Nat) : Nat :=
  if num = 0 then 0 else
    let guess : Int := (num.log2 : Int) - den.log2
    let reached := den * Nat.pow 2 guess.toNat ≤ num * Nat.pow 2 (-guess).toNat
    let top := if reached then guess else guess - 1
    let q := max (top - 52) (-1074)
    (q + 1074).toNat * blockSize
      + roundHalfEven (num * Nat.pow 2 (-q).toNat) (den * Nat.pow 2 q.toNat)

/-- The number nearest to `num / den`, unless that lies beyond the largest. -/
def ofRatio? (num den : Nat) : Option Binary64 :=
  let m := roundRatio num den
  if h : m < 2047 * blockSize then some ⟨false, m, h⟩ else none

/-- The number nearest to a natural number; the largest number beyond the range. -/
def ofNat (n : Nat) : Binary64 := (ofRatio? n 1).getD largest

/-- The number nearest to an integer. -/
def ofInt : Int → Binary64
  | .ofNat n => ofNat n
  | .negSucc n => (ofNat (n + 1)).withSign true

/-- The exact value of a magnitude as a fraction. -/
def fraction (magnitude : Nat) : Nat × Nat :=
  (significand magnitude * Nat.pow 2 (exponent magnitude).toNat,
    Nat.pow 2 (-exponent magnitude).toNat)

/-- Product of two magnitudes, rounded. -/
def mulMagnitude? (x y : Binary64) : Option Binary64 :=
  let (a, b) := fraction x.magnitude
  let (c, d) := fraction y.magnitude
  ofRatio? (a * c) (b * d)

/-- Quotient of two magnitudes, rounded; the divisor is not zero. -/
def divMagnitude? (x y : Binary64) : Option Binary64 :=
  let (a, b) := fraction x.magnitude
  let (c, d) := fraction y.magnitude
  ofRatio? (a * d) (b * c)

/-! ## Reading a decimal

A decimal is a significand and a power of ten.  The significand is rounded first; then it
is multiplied or divided by a power of ten that is itself a rounded number, powers beyond
the range in several steps. -/

/-- The greatest power of ten in the range. -/
def maxTenPower : Nat := 308

/-- The number nearest to a power of ten. -/
def tenPower (k : Nat) : Binary64 := ofNat (Nat.pow 10 k)

/-- Divides by the `k`-th power of ten, in steps of at most `10 ^ 308`. -/
def scaleDown (x : Binary64) (k : Nat) : Binary64 :=
  if k ≤ maxTenPower then (divMagnitude? x (tenPower k)).getD x
  else if x.magnitude = 0 then x
  else scaleDown ((divMagnitude? x (tenPower maxTenPower)).getD x) (k - maxTenPower)
  termination_by k
  decreasing_by simp only [maxTenPower] at *; omega

/-- The number for a significand times a power of ten; none when it is too large. -/
def ofDecimal? (significand : Nat) (exponent : Int) : Option Binary64 :=
  let x := ofNat significand
  if exponent < 0 then some (scaleDown x (-exponent).toNat)
  else if exponent.toNat ≤ maxTenPower then mulMagnitude? x (tenPower exponent.toNat)
  else if x.magnitude = 0 then some x
  else none

end Binary64

end StorageArray
