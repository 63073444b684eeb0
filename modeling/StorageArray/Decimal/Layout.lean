import StorageArray.Decimal.Shortest
/-!
# How a decimal is written

A `Layout` says where positional notation ends, whether a whole number shows a decimal, and
which of two equally good last digits is written.
The project writes numbers in two layouts: `Layout.json`, as a number of a JSON text, and
`Layout.capacity`, as a capacity in a message.
-/

namespace StorageArray.Binary64

/-- The choices open to a decimal notation. -/
structure Layout where
  /-- Positions of the decimal point, counted from the first digit, for which the number
  is written out; otherwise it gets an exponent.  `none` writes every number out. -/
  positional : Option (Int × Int)
  /-- A whole number is written with a zero after the point. -/
  showsPoint : Bool
  /-- The choice between two shortest decimals that are equally near. -/
  halfway : Halfway

/-- In a JSON text the point stands from five places before to sixteen places after the
first digit, a whole number ends in a zero after the point, and a tie goes to the even
digit. -/
def Layout.json : Layout := ⟨some (-4, 16), true, .even⟩

/-- A capacity is always written out, without a point when it is whole, and a tie goes
up. -/
def Layout.capacity : Layout := ⟨none, false, .up⟩

/-- A list of zeros. -/
def zeros (n : Nat) : List Char := List.replicate n '0'

/-- Digits with the decimal point at `point`, counted from the first digit. -/
def positionalText (digits : List Char) (point : Int) (showsPoint : Bool) : List Char :=
  if point ≤ 0 then '0' :: '.' :: zeros (-point).toNat ++ digits
  else
    let k := point.toNat
    if digits.length ≤ k then
      digits ++ zeros (k - digits.length) ++ (if showsPoint then ['.', '0'] else [])
    else digits.take k ++ '.' :: digits.drop k

/-- An integer with its sign, also when it is positive. -/
def signedText (n : Int) : List Char :=
  (if n < 0 then '-' else '+') :: (toString n.natAbs).toList

/-- Digits with a power of ten, one digit before the point. -/
def scientificText (digits : List Char) (point : Int) : List Char :=
  let mantissa := match digits with
    | [] => []
    | [d] => [d]
    | d :: rest => d :: '.' :: rest
  mantissa ++ 'e' :: signedText (point - 1)

/-- Digits of a decimal and the position of the point after the first of them. -/
def Decimal.digitsAndPoint (d : Decimal) : List Char × Int :=
  let ds := Nat.toDigits 10 d.digits
  let kept := (ds.reverse.dropWhile (· == '0')).reverse
  (kept, ds.length + d.exponent)

/-- A number in a layout. -/
def textIn (layout : Layout) (x : Binary64) : String :=
  let sign := if x.negative then ['-'] else []
  let body :=
    if x.magnitude = 0 then if layout.showsPoint then ['0', '.', '0'] else ['0']
    else
      let (digits, point) := (shortest layout.halfway x.magnitude).digitsAndPoint
      match layout.positional with
      | some (low, high) =>
        if low ≤ point ∧ point ≤ high then positionalText digits point layout.showsPoint
        else scientificText digits point
      | none => positionalText digits point layout.showsPoint
  String.ofList (sign ++ body)

end StorageArray.Binary64
