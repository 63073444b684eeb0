import StorageArray.Decimal.Binary64
/-!
# The shortest decimal that reads back

Every positive number of the binary64 format owns the interval of reals that round to it.
`shortest` takes the coarsest power of ten that has a multiple in this interval and, among
its multiples there, the one nearest to the number.  Two multiples can be equally near; a
`Halfway` says which of them is meant.  All comparisons are between integers.
-/

namespace StorageArray.Binary64

/-- A positive decimal number: `digits * 10 ^ exponent`. -/
structure Decimal where
  /-- The digits, read as one number. -/
  digits : Nat
  /-- The power of ten that the last digit counts. -/
  exponent : Int
deriving DecidableEq

/-- The interval of a number, its ends and its centre in quarters of a unit of the last
place. -/
structure Interval where
  /-- Lower end. -/
  low : Nat
  /-- The number itself. -/
  centre : Nat
  /-- Upper end. -/
  high : Nat
  /-- The ends belong to the interval. -/
  closed : Bool

/-- The reals that round to a magnitude.  Below the first number of a block the spacing is
half as wide. -/
def interval (magnitude : Nat) : Interval :=
  let m := significand magnitude
  let low := if m = blockSize ∧ blockSize < magnitude then 4 * m - 1 else 4 * m - 2
  ⟨low, 4 * m, 4 * m + 2, m % 2 == 0⟩

/-- Which of two neighbours stands for the number halfway between them. -/
inductive Halfway where
  /-- The even one. -/
  | even
  /-- The larger one. -/
  | up
deriving DecidableEq

/-- The lower neighbour is the one to take, given twice the distance from it, the distance
of the neighbours, and whether the lower one is even. -/
def Halfway.takesLower (halfway : Halfway) (twice unit : Nat) (isEven : Bool) : Bool :=
  twice < unit || (twice == unit && halfway == .even && isEven)

/-- The multiple of `10 ^ j` nearest to a magnitude, if one lies in its interval. -/
def onGrid (halfway : Halfway) (magnitude : Nat) (j : Int) : Option Nat :=
  let i := interval magnitude
  let q := exponent magnitude - 2
  let unit := Nat.pow 10 j.toNat * Nat.pow 2 (-q).toNat
  let scale := Nat.pow 2 q.toNat * Nat.pow 10 (-j).toNat
  let inside (c : Nat) :=
    if i.closed then i.low * scale ≤ c * unit ∧ c * unit ≤ i.high * scale
    else i.low * scale < c * unit ∧ c * unit < i.high * scale
  let below := i.centre * scale / unit
  let rest := i.centre * scale % unit
  match decide (inside below), decide (inside (below + 1)) with
  | true, true =>
    some (if halfway.takesLower (2 * rest) unit (below % 2 == 0) then below else below + 1)
  | true, false => some below
  | false, true => some (below + 1)
  | false, false => none

/-- The first hit on the grids `10 ^ j`, `10 ^ (j - 1)`, …, at most `steps` of them. -/
def firstOnGrid (halfway : Halfway) (magnitude : Nat) : Nat → Int → Decimal
  | 0, j => ⟨0, j⟩
  | steps + 1, j =>
    match onGrid halfway magnitude j with
    | some c => ⟨c, j⟩
    | none => firstOnGrid halfway magnitude steps (j - 1)

/-- A power of ten above a magnitude, and not far above it. -/
def coarsest (magnitude : Nat) : Int :=
  ((significand magnitude).log2 + 1 + exponent magnitude) * 30103 / 100000 + 1

/-- The shortest decimal that reads back as the magnitude. -/
def shortest (halfway : Halfway) (magnitude : Nat) : Decimal :=
  firstOnGrid halfway magnitude 20 (coarsest magnitude)

end StorageArray.Binary64
