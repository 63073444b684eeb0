import StorageArray.Text.Numeral
import StorageArray.Text.Utf8
/-!
# Percent signs

Characters that cannot stand for themselves in an address are written as their bytes, each
one as a percent sign with two hexadecimal digits.
-/

namespace StorageArray.Http

/-- Two upper-case hexadecimal digits. -/
def hexByte (b : UInt8) : List Char :=
  let digit (n : Nat) := Char.ofNat (if n < 10 then '0'.toNat + n else 'A'.toNat + n - 10)
  [digit (b.toNat / 16), digit (b.toNat % 16)]

/-- A character, or its bytes with percent signs when it is in a set, a control or not in
ASCII. -/
def percentEncode (set : List Char) (c : Char) : List Char :=
  if c.toNat ≤ 0x1f || 0x7f ≤ c.toNat || set.contains c then
    (Text.encode (String.ofList [c])).flatMap fun b => '%' :: hexByte b
  else [c]

/-- Resolves escapes with a percent sign. -/
def percentDecode : List UInt8 → List UInt8
  | 0x25 :: a :: b :: rest =>
    match Text.numberIn 16 [Char.ofNat a.toNat, Char.ofNat b.toNat] with
    | some n => UInt8.ofNat n :: percentDecode rest
    | none => 0x25 :: percentDecode (a :: b :: rest)
  | b :: rest => b :: percentDecode rest
  | [] => []

/-- The bytes of a text, its escapes resolved. -/
def decodedBytes (cs : List Char) : List UInt8 :=
  percentDecode (Text.encode (String.ofList cs))

end StorageArray.Http
