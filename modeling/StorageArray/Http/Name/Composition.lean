import StorageArray.Http.Name.Composition.Table
import StorageArray.Text.Lowercase
/-!
# Letters with marks

A letter with a mark can be one character or two, and marks at one letter can be written in
more than one order.  `composed` gives the one form that all of these ways share: it takes
every character apart, puts the marks at a letter into the order of their classes, and joins
each letter with the marks that a single character can hold.
-/

namespace StorageArray.Http.Name

/-- The class of a mark; 0 for every other character. -/
def markClass (c : Char) : Nat :=
  ((classRanges.find? fun (_, ranges) => Text.inRanges ranges c).map (·.1)).getD 0

/-! ## Korean syllables

A syllable is a consonant with a vowel and perhaps another consonant below, and its number
follows from theirs. -/

/-- The parts of a syllable. -/
def syllableParts? (c : Char) : Option (List Char) :=
  let n := c.toNat - 0xac00
  if 0xac00 ≤ c.toNat ∧ n < 11172 then
    let front := [Char.ofNat (0x1100 + n / 588), Char.ofNat (0x1161 + n % 588 / 28)]
    some (if n % 28 = 0 then front else front ++ [Char.ofNat (0x11a7 + n % 28)])
  else none

/-- The syllable of two parts. -/
def syllable? (a b : Char) : Option Char :=
  let x := a.toNat
  let y := b.toNat
  if 0x1100 ≤ x ∧ x < 0x1113 ∧ 0x1161 ≤ y ∧ y < 0x1176 then
    some (Char.ofNat (0xac00 + (x - 0x1100) * 588 + (y - 0x1161) * 28))
  else if 0xac00 ≤ x ∧ x < 0xd7a4 ∧ (x - 0xac00) % 28 = 0 ∧ 0x11a7 < y ∧ y < 0x11c3 then
    some (Char.ofNat (x + (y - 0x11a7)))
  else none

/-! ## Taking apart, ordering, joining -/

/-- The character that two stand for together. -/
def composite? (a b : Char) : Option Char :=
  match syllable? a b with
  | some c => some c
  | none =>
    (composites.find? fun (first, second, _) => first == a.toNat && second == b.toNat).map
      fun (_, _, whole) => Char.ofNat whole

/-- The parts of a character, taken apart at most `depth` times. -/
def partsOf : (depth : Nat) → Char → List Char
  | 0, c => [c]
  | depth + 1, c =>
    match syllableParts? c with
    | some parts => parts
    | none => match composites.find? fun (_, _, whole) => whole == c.toNat with
      | some (first, second, _) => partsOf depth (Char.ofNat first) ++ [Char.ofNat second]
      | none => [c]

/-- Puts a character in front of ordered ones, behind those of a lower class. -/
def insertMark (c : Char) : List Char → List Char
  | [] => [c]
  | d :: rest =>
    if markClass d ≠ 0 ∧ markClass d < markClass c then d :: insertMark c rest
    else c :: d :: rest

/-- Characters with the marks between other characters ordered by class. -/
def ordered (cs : List Char) : List Char := cs.foldr insertMark []

/-- Joins a letter with the marks that follow it.  The marks that stay apart are in
`between`, the last one first; a mark behind one of the same class or a higher one is not
joined. -/
def joinFrom (letter : Char) (between : List Char) : List Char → List Char
  | [] => letter :: between.reverse
  | c :: rest =>
    let isFree := match between with
      | [] => true
      | d :: _ => markClass d < markClass c
    match if isFree then composite? letter c else none with
    | some whole => joinFrom whole between rest
    | none =>
      if markClass c = 0 then letter :: between.reverse ++ joinFrom c [] rest
      else joinFrom letter (c :: between) rest

/-- Joins every letter with the marks that follow it. -/
def joined : List Char → List Char
  | [] => []
  | c :: rest => if markClass c = 0 then joinFrom c [] rest else c :: joined rest

/-- The text with one character for each letter and its marks, as far as there is one.
Below U+0300 there are no marks, and nothing changes. -/
def composed (cs : List Char) : List Char :=
  if cs.all (·.toNat < 0x300) then cs else joined (ordered (cs.flatMap (partsOf 4)))

end StorageArray.Http.Name
