import StorageArray.Text.Search
/-!
# Labels in ASCII

A label with characters outside ASCII is written in ASCII in two parts: its ASCII characters
in order, and behind a hyphen a number for each of the others, in the order of their code
points, that says where it is inserted.  The numbers are written with digits whose weights
adapt to the numbers before them.  `encode` writes a label, `decode?` reads it.
-/

namespace StorageArray.Http.Name.Punycode

/-- A digit: letters, then numerals. -/
def digitOf (n : Nat) : Char :=
  if n < 26 then Char.ofNat ('a'.toNat + n) else Char.ofNat ('0'.toNat + n - 26)

/-- The value of a digit. -/
def valueOf? (c : Char) : Option Nat :=
  if 'a' ≤ c ∧ c ≤ 'z' then some (c.toNat - 'a'.toNat)
  else if '0' ≤ c ∧ c ≤ '9' then some (c.toNat - '0'.toNat + 26)
  else none

/-- The digit at place `k` is the last one of its number if it is below this threshold. -/
def threshold (bias k : Nat) : Nat :=
  if k ≤ bias then 1 else if bias + 26 ≤ k then 26 else k - bias

theorem threshold_pos (bias k : Nat) : 0 < threshold bias k := by
  unfold threshold
  split
  · omega
  · split <;> omega

theorem threshold_le (bias k : Nat) : threshold bias k ≤ 26 := by
  unfold threshold
  split
  · omega
  · split <;> omega

/-- Divides by 35 as long as the number is large; `k` grows by 36 with every division. -/
def shrink (delta k : Nat) : Nat :=
  if 455 < delta then shrink (delta / 35) (k + 36) else k + 36 * delta / (delta + 38)
  termination_by delta
  decreasing_by exact Nat.div_lt_self (by omega) (by omega)

/-- The bias after a number, when the label has `size` characters so far. -/
def adapted (delta size : Nat) (isFirst : Bool) : Nat :=
  let delta := if isFirst then delta / 700 else delta / 2
  shrink (delta + delta / size) 0

/-! ## Writing -/

/-- The digits of a number from place `k` on. -/
def digitsOf (bias k q : Nat) : List Char :=
  let t := threshold bias k
  if q < t then [digitOf q]
  else digitOf (t + (q - t) % (36 - t)) :: digitsOf bias (k + 36) ((q - t) / (36 - t))
  termination_by q
  decreasing_by
    have := threshold_pos bias k
    have := Nat.div_le_self (q - threshold bias k) (36 - threshold bias k)
    omega

/-- Where the writer of a label stands. -/
structure Cursor where
  /-- What is written, the last character first. -/
  written : List Char := []
  /-- The number of the next insertion, as far as it is counted. -/
  delta : Nat
  /-- The bias of the next number. -/
  bias : Nat
  /-- How many characters of the label are done. -/
  size : Nat

/-- Goes past one character of the label, while those with code point `m` are written. -/
def Cursor.pass (basic m : Nat) (s : Cursor) (c : Char) : Cursor :=
  if c.toNat < m then { s with delta := s.delta + 1 }
  else if c.toNat = m then {
    written := (digitsOf s.bias 36 s.delta).reverse ++ s.written
    delta := 0
    bias := adapted s.delta (s.size + 1) (s.size == basic)
    size := s.size + 1 }
  else s

/-- Writes the characters with the given code points, the last one of which was `n - 1`. -/
def Cursor.write (label : List Char) (basic : Nat) : List Nat → (n : Nat) → Cursor → Cursor
  | [], _, s => s
  | m :: rest, n, s =>
    let s := { s with delta := s.delta + (m - n) * (s.size + 1) }
    let s := label.foldl (Cursor.pass basic m) s
    Cursor.write label basic rest (m + 1) { s with delta := s.delta + 1 }

/-- The character is in ASCII. -/
def isBasic (c : Char) : Bool := c.toNat < 0x80

/-- The code points outside ASCII, each once, in ascending order. -/
def pointsOf (label : List Char) : List Nat :=
  ((label.filter (!isBasic ·)).map Char.toNat).mergeSort.eraseReps

/-- A label in ASCII. -/
def encode (label : List Char) : List Char :=
  let basic := label.filter isBasic
  let start : Cursor := { delta := 0, bias := 72, size := basic.length }
  let done := start.write label basic.length (pointsOf label) 0x80
  basic ++ (if basic.isEmpty then [] else ['-']) ++ done.written.reverse

/-! ## Reading -/

/-- All numbers are below this bound. -/
def bound : Nat := 4294967296

/-- Adds the number at the start of the digits to `total`, and returns the digits left. -/
def addNumber (bias : Nat) : (k weight total : Nat) → List Char → Option (Nat × List Char)
  | _, _, _, [] => none
  | k, weight, total, c :: rest => do
    let d ← valueOf? c
    let t := threshold bias k
    let total := total + d * weight
    if bound ≤ total then none
    else if d < t then some (total, rest)
    else if bound ≤ weight * (36 - t) then none
    else addNumber bias (k + 36) (weight * (36 - t)) total rest

/-- Inserts a character for each number in the digits.  The next one is not below `point`,
and at this code point not before `index`. -/
def insertAll : (fuel point index bias : Nat) → (label digits : List Char) → Option (List Char)
  | _, _, _, _, label, [] => some label
  | 0, _, _, _, _, _ :: _ => none
  | fuel + 1, point, index, bias, label, c :: rest => do
    let (total, rest) ← addNumber bias 36 1 index (c :: rest)
    let size := label.length + 1
    let point := point + total / size
    let place := total % size
    if point.isValidChar then
      insertAll fuel point (place + 1) (adapted (total - index) size (index == 0))
        (label.insertIdx place (Char.ofNat point)) rest
    else none

/-- The parts of a text before and after its last hyphen; without any hyphen behind the
first character, all of it is after. -/
def parts (code : List Char) : List Char × List Char :=
  match Text.splitFirst '-' code.reverse with
  | some (after, before) => if before.isEmpty then ([], code) else (before.reverse, after.reverse)
  | none => ([], code)

/-- The label that is written in ASCII. -/
def decode? (code : List Char) : Option (List Char) :=
  let (basic, digits) := parts code
  insertAll digits.length 0x80 0 72 basic digits

end StorageArray.Http.Name.Punycode
