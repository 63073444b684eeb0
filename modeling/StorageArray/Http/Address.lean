import StorageArray.Text.Numeral
import StorageArray.Text.Search
/-!
# Numeric addresses

An IPv4 address has up to four parts, in any of three bases, and one normal form with four
decimal bytes.  An IPv6 address has eight pieces of 16 bits, and its normal form leaves out
the longest run of zeros.
-/

namespace StorageArray.Http

/-! ## IPv4 addresses -/

/-- One part of an IPv4 address: decimal, octal after a zero, hexadecimal after `0x`. -/
def ipv4Part (cs : List Char) : Option Nat :=
  match cs with
  | [] => none
  | '0' :: 'x' :: digits => Text.numberIn 16 digits
  | '0' :: 'X' :: digits => Text.numberIn 16 digits
  | '0' :: d :: digits => Text.numberIn 8 (d :: digits)
  | digits => Text.numberIn 10 digits

/-- The parts of a host between its points, an empty one at the end left out. -/
def hostParts (host : List Char) : List (List Char) :=
  let parts := Text.split '.' host
  if 1 < parts.length ∧ parts.getLast? = some [] then parts.dropLast else parts

/-- The last part of the host is a number, so the host has to be an IPv4 address. -/
def endsInNumber (host : List Char) : Bool :=
  match (hostParts host).getLast? with
  | none => false
  | some last =>
    (!last.isEmpty && last.all Char.isDigit)
      || (match last with
        | '0' :: 'x' :: digits | '0' :: 'X' :: digits => (Text.numberIn 16 digits).isSome
        | _ => false)

/-- The four bytes of an address as a text. -/
def ipv4Text (address : Nat) : List Char :=
  let byte (k : Nat) := toString (address / Nat.pow 256 k % 256)
  (byte 3 ++ "." ++ byte 2 ++ "." ++ byte 1 ++ "." ++ byte 0).toList

/-- The normal form of an IPv4 address; the last part fills all bytes left over. -/
def ipv4? (host : List Char) : Option (List Char) := do
  let parts ← (hostParts host).mapM ipv4Part
  let front := parts.dropLast
  let last := parts.getLast?.getD 0
  if 4 < parts.length || front.any (255 < ·) || Nat.pow 256 (5 - parts.length) ≤ last then none
  else
    let high := front.zipIdx.foldl (fun n (part, i) => n + part * Nat.pow 256 (3 - i)) 0
    some (ipv4Text (high + last))

/-! ## IPv6 addresses -/

/-- A decimal byte without superfluous zeros. -/
def plainByte (cs : List Char) : Option Nat :=
  match cs with
  | ['0'] => some 0
  | '0' :: _ => none
  | _ => if cs.isEmpty then none else (Text.numberIn 10 cs).filter (· < 256)

/-- The pieces of one side of an IPv6 address.  At the end of an address the last ones may be
written as an IPv4 address. -/
def ipv6Pieces (isEnd : Bool) (side : List Char) : Option (List Nat) :=
  if side.isEmpty then some []
  else
    let texts := Text.split ':' side
    let piece (cs : List Char) : Option (List Nat) :=
      if cs.isEmpty || 4 < cs.length then none else (Text.numberIn 16 cs).map ([·])
    let final (cs : List Char) : Option (List Nat) :=
      match isEnd, (Text.split '.' cs).mapM plainByte with
      | true, some [a, b, c, d] => some [a * 256 + b, c * 256 + d]
      | _, _ => piece cs
    match texts.getLast? with
    | none => none
    | some last => do
      let front ← texts.dropLast.mapM piece
      pure (front.flatten ++ (← final last))

/-- The parts of a list before and after the first two colons in a row. -/
def splitDoubleColon : List Char → Option (List Char × List Char)
  | ':' :: ':' :: rest => some ([], rest)
  | c :: rest => (splitDoubleColon rest).map fun (a, b) => (c :: a, b)
  | [] => none

/-- The eight pieces of an IPv6 address; two colons stand for any number of zeros. -/
def ipv6? (text : List Char) : Option (List Nat) :=
  match splitDoubleColon text with
  | none => (ipv6Pieces true text).filter (·.length == 8)
  | some (before, after) => do
    let front ← ipv6Pieces false before
    let back ← ipv6Pieces true after
    if front.length + back.length < 8 then
      pure (front ++ List.replicate (8 - front.length - back.length) 0 ++ back)
    else none

/-- How many zeros a list starts with. -/
def leadingZeros (pieces : List Nat) : Nat := (pieces.takeWhile (· == 0)).length

/-- Where the longest run of zeros starts, and how long it is. -/
def longestZeros (pieces : List Nat) : Nat × Nat :=
  (List.range pieces.length).foldl
    (fun (start, length) i =>
      let n := leadingZeros (pieces.drop i)
      if length < n then (i, n) else (start, length)) (0, 0)

/-- The normal form of an IPv6 address. -/
def ipv6Text (pieces : List Nat) : String :=
  let joined (ps : List Nat) :=
    ":".intercalate (ps.map fun n => String.ofList (Nat.toDigits 16 n))
  let (start, length) := longestZeros pieces
  if length < 2 then joined pieces
  else joined (pieces.take start) ++ "::" ++ joined (pieces.drop (start + length))

end StorageArray.Http
