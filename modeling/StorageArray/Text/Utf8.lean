/-!
# Reading UTF-8

`decodeStrict` reads a list of bytes that must be well formed.  `decodeLossy` reads any
list of bytes: each longest piece that could still have become a character, but did not,
is replaced by one U+FFFD.
-/

namespace StorageArray.Text

/-- A byte that continues a character. -/
def isTail (b : UInt8) : Bool := 0x80 ≤ b && b ≤ 0xbf

/-- The second byte allowed after the first byte of a character of several bytes. -/
def isSecond (first second : UInt8) : Bool :=
  if first == 0xe0 then 0xa0 ≤ second && second ≤ 0xbf
  else if first == 0xed then 0x80 ≤ second && second ≤ 0x9f
  else if first == 0xf0 then 0x90 ≤ second && second ≤ 0xbf
  else if first == 0xf4 then 0x80 ≤ second && second ≤ 0x8f
  else isTail second

/-- How many bytes a character has that starts with this byte; 0 when none does. -/
def sequenceLength (b : UInt8) : Nat :=
  if b < 0x80 then 1
  else if 0xc2 ≤ b && b ≤ 0xdf then 2
  else if 0xe0 ≤ b && b ≤ 0xef then 3
  else if 0xf0 ≤ b && b ≤ 0xf4 then 4
  else 0

/-- The payload of a first byte followed by those of the continuing bytes. -/
def codePoint (lead : Nat) (tail : List UInt8) : Char :=
  Char.ofNat (tail.foldl (fun n b => n * 64 + b.toNat % 64) lead)

/-- Reads one character from a non-empty list: the character, or `none` for a malformed
piece, and the number of bytes that it takes. -/
def decodeFirst (b : UInt8) (rest : List UInt8) : Option Char × Nat :=
  match sequenceLength b, rest with
  | 1, _ => (some (codePoint b.toNat []), 1)
  | 2, c :: _ => if isTail c then (some (codePoint (b.toNat % 32) [c]), 2) else (none, 1)
  | 3, c :: d :: _ =>
    if isSecond b c then
      if isTail d then (some (codePoint (b.toNat % 16) [c, d]), 3) else (none, 2)
    else (none, 1)
  | 3, [c] => (none, if isSecond b c then 2 else 1)
  | 4, c :: d :: e :: _ =>
    if isSecond b c then
      if isTail d then
        if isTail e then (some (codePoint (b.toNat % 8) [c, d, e]), 4) else (none, 3)
      else (none, 2)
    else (none, 1)
  | 4, [c, d] => (none, if isSecond b c then if isTail d then 3 else 2 else 1)
  | 4, [c] => (none, if isSecond b c then 2 else 1)
  | _, _ => (none, 1)

/-- The characters of a list of bytes, `none` for each malformed piece. -/
def decodePieces : List UInt8 → List (Option Char)
  | [] => []
  | b :: rest =>
    let (piece, width) := decodeFirst b rest
    piece :: decodePieces (rest.drop (width - 1))
  termination_by bytes => bytes.length
  decreasing_by simp only [List.length_drop, List.length_cons]; omega

/-- The text of well-formed bytes. -/
def decodeStrict (bytes : List UInt8) : Option (List Char) :=
  (decodePieces bytes).mapM id

/-- The text of any bytes, with U+FFFD for each malformed piece. -/
def decodeLossy (bytes : List UInt8) : List Char :=
  (decodePieces bytes).map fun piece => piece.getD (Char.ofNat 0xfffd)

/-- The bytes of a text. -/
def encode (s : String) : List UInt8 := s.toUTF8.toList

end StorageArray.Text
